import NumScript.Eval
import NumScript.Numeral
import NumScript.Terminal

set_option autoImplicit false

namespace NumScript

structure Session (σ : Type) where
  symbols : Symbols := .empty
  executed : Nat := 0
  terminal : σ

inductive Effect where
  | store (symbols : Symbols)
  | print (line : PrintedLine)

def Stmt.effect (symbols : Symbols) : Stmt -> Except RuntimeError Effect
  -- The faults of an initializer come before that of the name, those of a new value after it.
  | declaration name initializer line => do
      let value ← initializer.eval symbols
      let next ← symbols.declare name value line
      return .store next
  | assignment name value line => do
      if symbols.contains name then
        let value ← value.eval symbols
        let next ← symbols.assign name value line
        return .store next
      else
        throw (.undeclared name line)
  | print expression line => do
      let value ← expression.eval symbols
      return .print ⟨Numeral.write value, line⟩
  | evaluation expression _ => do
      let _ ← expression.eval symbols
      return .store symbols

namespace Session

variable {σ : Type}

def execute (terminal : Terminal σ) (session : Session σ) (statement : Stmt) :
    Except RuntimeError Unit × Session σ :=
  match statement.effect session.symbols with
  | .error error => (.error error, session)
  | .ok (.store symbols) =>
      (.ok (), { session with symbols, executed := session.executed + 1 })
  | .ok (.print line) =>
      match terminal.print line session.terminal with
      | (.accepted, state) =>
          (.ok (), { session with terminal := state, executed := session.executed + 1 })
      | (.refused cause, state) =>
          (.error (.output cause line.line), { session with terminal := state })

def run (terminal : Terminal σ) (session : Session σ) :
    Program -> Except RuntimeError Unit × Session σ
  | [] => (.ok (), session)
  | statement :: rest =>
      match session.execute terminal statement with
      | (.ok (), next) => next.run terminal rest
      | failed => failed

end Session

end NumScript
