import NumScript.Command.Folder
import NumScript.Command.Request
import NumScript.Journal

set_option autoImplicit false

namespace NumScript

structure Response where
  status : UInt8
  output : String
  notes : String
  deriving DecidableEq

namespace Command

def versionText : String :=
  "declang 0.1.0\n"

def usageText : String :=
  "Usage: declang [OPTIONS] <FILE>\n"

def helpText : String :=
  "A tiny tree-walking interpreter for a declare/print arithmetic language\n\n" ++
    usageText ++
    "\nArguments:\n" ++
    "  <FILE>  Path of the source file to execute\n" ++
    "\nOptions:\n" ++
    "  -v, --verbose...  Log more about each stage (-v info, -vv debug, -vvv trace)\n" ++
    "  -h, --help        Print help\n" ++
    "  -V, --version     Print version\n"

def usageStatus : UInt8 := 64

def failureStatus : UInt8 := 74

def decode (content : ByteArray) : Except ReadFault String :=
  match String.fromUTF8? content with
  | some text => .ok text
  | none => .error .notText

def closingNotes : Except Failure Unit -> List Note
  | .ok () => [.event .succeeded]
  | .error failure => [.plain failure.message, .plain "Execution failed."]

def statusOf : Except Failure Unit -> UInt8
  | .ok () => 0
  | .error _ => failureStatus

def runText (path source : String) (verbosity : Nat) : Response :=
  let (result, session) := runSource .stream source ""
  let notes :=
    .event (.opening path) :: (Event.ofSource .stream source "").map .event ++
      closingNotes result
  { status := statusOf result
    output := session.terminal
    notes := renderNotes verbosity notes }

def runFile (path : String) (verbosity : Nat) (content : Except ReadFault ByteArray) : Response :=
  match content.bind decode with
  | .ok source => runText path source verbosity
  | .error fault =>
      let complaint := "Error: could not read file '" ++ path ++ "': " ++ fault.message
      { status := failureStatus
        output := ""
        notes := renderNotes verbosity [.event (.opening path), .plain complaint] }

end Command

def Request.respond (read : String -> Except ReadFault ByteArray) : Request -> Response
  | help => { status := 0, output := Command.helpText, notes := "" }
  | version => { status := 0, output := Command.versionText, notes := "" }
  | misuse => { status := Command.usageStatus, output := "", notes := Command.usageText }
  | run path verbosity => Command.runFile path verbosity (read path)

end NumScript
