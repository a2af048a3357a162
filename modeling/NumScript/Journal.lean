import NumScript.Execution

set_option autoImplicit false

namespace NumScript

inductive Severity where
  | info
  | debug
  | trace
  deriving DecidableEq

namespace Severity

def label : Severity -> String
  | info => " INFO"
  | debug => "DEBUG"
  | trace => "TRACE"

def shown (verbosity : Nat) : Severity -> Bool
  | info => 1 ≤ verbosity
  | debug => 2 ≤ verbosity
  | trace => 3 ≤ verbosity

end Severity

inductive Event where
  | opening (path : String)
  | scanned (token : Token)
  | tokenized (count lastLine : Nat)
  | refused (error : SyntaxError)
  | unparsed (errors : Nat)
  | parsed (statements : Nat)
  | starting (statements : Nat)
  | executing (line : Nat)
  | executed (statements names : Nat)
  | succeeded
  deriving DecidableEq

namespace Event

def severity : Event -> Severity
  | opening _ | succeeded => .info
  | scanned _ | executing _ => .trace
  | _ => .debug

def message : Event -> String
  | opening path => "executing file file=" ++ path
  | scanned token =>
      "token kind=" ++ token.kind.name ++ " text=" ++ token.text ++ " line=" ++ toString token.line
  | tokenized count lastLine =>
      "tokenized source tokens=" ++ toString count ++ " lines=" ++ toString lastLine
  | refused error =>
      "syntax error line=" ++ toString error.line ++ " lexeme=" ++ error.lexeme ++ " " ++
        error.message
  | unparsed errors => "parse failed errors=" ++ toString errors
  | parsed statements => "parsed program statements=" ++ toString statements
  | starting statements => "executing program statements=" ++ toString statements
  | executing line => "executing statement line=" ++ toString line
  | executed statements names =>
      "execution finished executed=" ++ toString statements ++ " variables=" ++ toString names
  | succeeded => "execution finished successfully"

def ofScan (scan : Scan) : List Event :=
  scan.tokens.map scanned ++
    match scan.finish with
    | .ok tokens => [tokenized tokens.length scan.line]
    | .error _ => []

def ofParse : Except (List SyntaxError) Program -> List Event
  | .ok program => [parsed program.length]
  | .error errors => errors.map refused ++ [unparsed errors.length]

def ofRun {σ : Type} (program : Program) (outcome : Except RuntimeError Unit × Session σ) :
    List Event :=
  let (result, session) := outcome
  -- A statement is noted before it runs, so the one that fails is noted too.
  let begun := fun count => (program.take count).map (fun statement => executing statement.line)
  starting program.length ::
    match result with
    | .ok () => begun session.executed ++ [executed session.executed session.symbols.size]
    | .error _ => begun (session.executed + 1)

def ofSource {σ : Type} (terminal : Terminal σ) (source : String) (state : σ) : List Event :=
  ofScan (Scan.ofSource source) ++
    match tokenize source with
    | .error _ => []
    | .ok tokens =>
        ofParse (parse tokens) ++
          match parse tokens with
          | .error _ => []
          | .ok program => ofRun program (Session.run terminal { terminal := state } program)

end Event

inductive Note where
  | event (happened : Event)
  | plain (text : String)
  deriving DecidableEq

def Note.shown (verbosity : Nat) : Note -> Bool
  | event happened => happened.severity.shown verbosity
  | plain _ => true

def Note.render : Note -> String
  | event happened => happened.severity.label ++ " " ++ happened.message ++ "\n"
  | plain text => text ++ "\n"

def renderNotes (verbosity : Nat) (notes : List Note) : String :=
  String.join ((notes.filter (Note.shown verbosity)).map Note.render)

end NumScript
