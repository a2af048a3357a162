import NumScript.Proofs.NewlineBoundary
import NumScript.Proofs.Reading.Sources

set_option autoImplicit false

namespace NumScript

theorem programOfSource_append_newline {first : String} {program : Program}
    (read : programOfSource first = .ok program) (second : String) :
    programOfSource (first ++ "\n" ++ second) =
      match programOfSource second with
      | .ok next => .ok (program ++ next.map (Stmt.mapLines (· + lineOffset first)))
      | .error failure => .error (failure.mapLines (· + lineOffset first)) := by
  obtain ⟨tokens, scanned, inside, sentences⟩ := programOfSource_eq_ok_iff.1 read
  have joined := tokenize_append_newline scanned second
  cases other : tokenize second with
  | error error =>
      rw [other] at joined
      rw [programOfSource_of_error other, programOfSource_of_error joined]
      rfl
  | ok more =>
      have nonempty : more.map (Token.mapLine (· + lineOffset first)) ≠ [] := by
        obtain ⟨-, rfl⟩ := tokenize_eq_ok_iff.1 other
        simp
      rw [other] at joined
      rw [programOfSource_of_ok other, programOfSource_of_ok joined,
        parse_append_of_statements sentences inside nonempty, parse_mapLine]
      cases parse more <;> rfl

theorem runSource_append_newline {σ : Type} {first : String} {program : Program}
    (read : programOfSource first = .ok program) (second : String) (terminal : Terminal σ)
    (state : σ) :
    runSource terminal (first ++ "\n" ++ second) state =
      match programOfSource second with
      | .error failure =>
          (.error (failure.mapLines (· + (1 + newlines first.toList))), { terminal := state })
      | .ok next =>
          let outcome := Session.runBoth terminal { terminal := state } program
            (next.map (Stmt.mapLines (· + (1 + newlines first.toList))))
          (outcome.1.mapError .runtime, outcome.2) := by
  have joined := programOfSource_append_newline read second
  cases other : programOfSource second with
  | error failure =>
      rw [other] at joined
      exact runSource_of_error terminal state joined
  | ok next =>
      rw [other] at joined
      rw [runSource_of_ok terminal state joined, Session.run_append]
      rfl

def commentedDeclaration : String :=
  "declarar x = 1; // one"

def printThenDivide : String :=
  "imprimir(x);\nimprimir(x / 0);"

theorem runSource_append_newline_behind_comment :
    programOfSource commentedDeclaration = .ok [.declaration "x" (.number 1) 1] ∧
      let (_, session) :=
        runSource .recorder (commentedDeclaration ++ "\n" ++ printThenDivide) []
      session.executed = 2 ∧ session.terminal = [⟨"1", 2⟩] ∧ session.symbols.contains "x" := by
  have read : programOfSource commentedDeclaration = .ok [.declaration "x" (.number 1) 1] := by
    have known : (programOfSource commentedDeclaration).toOption =
        some [.declaration "x" (.number 1) 1] := by
      decide +kernel
    cases found : programOfSource commentedDeclaration with
    | error => simp [found, Except.toOption] at known
    | ok program => simpa [found, Except.toOption] using known
  refine ⟨read, ?_⟩
  rw [runSource_append_newline read]
  decide +kernel

end NumScript
