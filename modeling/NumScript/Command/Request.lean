set_option autoImplicit false

namespace NumScript

inductive Request where
  | help
  | version
  | misuse
  | run (path : String) (verbosity : Nat)
  deriving DecidableEq

namespace Request

structure Settings where
  path? : Option String := none
  verbosity : Nat := 0

inductive Step where
  | next (settings : Settings)
  | decided (request : Request)

def readPath (settings : Settings) (argument : String) : Step :=
  -- The empty text names no file, and only one file may be named.
  if argument = "" ∨ settings.path?.isSome then .decided .misuse
  else .next { settings with path? := some argument }

def readLetters (settings : Settings) : List Char -> Step
  | [] => .next settings
  | 'v' :: rest => readLetters { settings with verbosity := settings.verbosity + 1 } rest
  | 'h' :: _ => .decided .help
  | 'V' :: _ => .decided .version
  | _ :: _ => .decided .misuse

def readWord (settings : Settings) (word : List Char) : Step :=
  if word = "verbose".toList then
    .next { settings with verbosity := settings.verbosity + 1 }
  else if word = "help".toList then .decided .help
  else if word = "version".toList then .decided .version
  else .decided .misuse

def readArgument (settings : Settings) (argument : String) : Step :=
  match argument.toList with
  | '-' :: '-' :: word => readWord settings word
  | '-' :: letter :: rest => readLetters settings (letter :: rest)
  | _ => readPath settings argument

def finish (settings : Settings) : Request :=
  match settings.path? with
  | some path => .run path settings.verbosity
  | none => .misuse

def readAll (reader : Settings -> String -> Step) (settings : Settings) (arguments : List String) :
    Step :=
  match arguments with
  | [] => .next settings
  | argument :: rest =>
      match reader settings argument with
      | .next settings => readAll reader settings rest
      | decided => decided

def ofArguments (arguments : List String) : Request :=
  -- Behind two dashes alone every argument names a file, whatever it looks like.
  let options := arguments.takeWhile (fun argument => argument != "--")
  let paths := (arguments.dropWhile (fun argument => argument != "--")).tail
  match readAll readArgument {} options with
  | .decided request => request
  | .next settings =>
      match readAll readPath settings paths with
      | .decided request => request
      | .next settings => finish settings

end Request

end NumScript
