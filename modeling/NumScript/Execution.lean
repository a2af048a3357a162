import NumScript.Attempt
import NumScript.Scan
import NumScript.Session

set_option autoImplicit false

namespace NumScript

inductive Failure where
  | scan (error : LexError)
  | parse (errors : List SyntaxError)
  | runtime (error : RuntimeError)
  deriving DecidableEq

def Failure.message : Failure -> String
  | scan error => error.message
  | parse errors => SyntaxError.renderAll errors
  | runtime error => "Runtime error: " ++ error.message

def programOfTokens (tokens : List Token) : Except Failure Program :=
  (parse tokens).mapError .parse

def programOfSource (source : String) : Except Failure Program := do
  let tokens ← (tokenize source).mapError Failure.scan
  programOfTokens tokens

inductive Submission where
  | source (text : String)
  | tokens (given : List Token)
  | program (statements : Program)

def Submission.read : Submission -> Except Failure Program
  | source text => programOfSource text
  | tokens given => programOfTokens given
  | program statements => .ok statements

def Session.submit {σ : Type} (terminal : Terminal σ) (session : Session σ)
    (submission : Submission) : Except Failure Unit × Session σ :=
  match submission.read with
  | .error failure => (.error failure, session)
  | .ok program =>
      let (result, next) := session.run terminal program
      (result.mapError .runtime, next)

def runSource {σ : Type} (terminal : Terminal σ) (source : String) (state : σ) :
    Except Failure Unit × Session σ :=
  Session.submit terminal { terminal := state } (.source source)

end NumScript
