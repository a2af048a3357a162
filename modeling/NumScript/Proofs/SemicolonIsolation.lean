import NumScript.Proofs.ParseExact

set_option autoImplicit false

namespace NumScript

def Sealed (tokens : List Token) : Prop :=
  ∀ last ∈ tokens.getLast?, last.kind = .semicolon

theorem Sealed.of_suffix {tokens rest : List Token} (ends : Sealed tokens)
    (within : rest <:+ tokens) : Sealed rest := by
  obtain ⟨before, rfl⟩ := within
  intro last final
  apply ends last
  simp only [Option.mem_def] at final ⊢
  rw [List.getLast?_append, final, Option.some_or]

theorem Sealed.kind_of_singleton {token : Token} (ends : Sealed [token]) :
    token.kind = .semicolon :=
  ends token rfl

theorem PartialStmt.step_semicolon (state : PartialStmt) {token : Token}
    (kind : token.kind = .semicolon) :
    state.step token = .unexpected ∨ ∃ statement, state.step token = .done statement := by
  cases state with
  | start | declaring | named | printing =>
      left
      simp [PartialStmt.step, readInside, PartialExpr.empty, PartialExpr.step,
        PartialExpr.readOperand, kind]
  | printed expression line =>
      right
      exact ⟨.print expression line, by simp [PartialStmt.step, kind]⟩
  | inside slot reading =>
      rcases reading with ⟨inner, outer⟩ | ⟨inner, outer, operand⟩
      · left
        simp [PartialStmt.step, readInside, PartialExpr.step, PartialExpr.readOperand, kind]
      · cases outer with
        | nil =>
            rw [step_holding_of_not_operator (by rw [kind]; rfl)]
            cases slot <;> simp [afterExpression, kind]
        | cons level outer =>
            left
            simp [PartialStmt.step, readInside, PartialExpr.step, PartialExpr.readOperator, kind,
              BinOp.ofKind?]

namespace Attempt

theorem resume_append {tokens : List Token} (ends : Sealed tokens) (some : tokens ≠ [])
    (more : List Token) : resume (tokens ++ more) = resume tokens ++ more := by
  induction tokens with
  | nil => contradiction
  | cons token rest ih =>
      cases rest with
      | nil => simp [resume, ends.kind_of_singleton]
      | cons second rest =>
          have onward := ih (ends.of_suffix (List.suffix_cons token _)) (by simp)
          have ahead : atStatement (second :: rest ++ more) = atStatement (second :: rest) := rfl
          rw [List.cons_append, resume, resume, ahead]
          split
          · rfl
          · exact onward

def verdict (attempt : Attempt) : Option Stmt × Option SyntaxError :=
  (attempt.statement?, attempt.error?)

theorem read_append_sealed (last other : Token) {tokens : List Token} (ends : Sealed tokens)
    (some : tokens ≠ []) (state : PartialStmt) (more : List Token) :
    (read last state (tokens ++ more)).verdict = (read other state tokens).verdict ∧
      (read last state (tokens ++ more)).remaining =
        (read other state tokens).remaining ++ more := by
  induction tokens generalizing state with
  | nil => contradiction
  | cons token rest ih =>
      cases rest with
      | nil =>
          rcases state.step_semicolon ends.kind_of_singleton with stuck | ⟨statement, finished⟩
          · have onward := resume_append ends some more
            simpa [read, stuck, verdict, remaining, statement?, error?] using onward
          · simp [read, finished, verdict, remaining, statement?, error?]
      | cons second rest =>
          have onward := resume_append ends some more
          have rests := ends.of_suffix (List.suffix_cons token _)
          have skipped := resume_append rests (by simp) more
          rw [List.cons_append, read, read]
          cases state.step token with
          | next next => exact ih rests (by simp) next
          | done statement => exact ⟨rfl, rfl⟩
          | unexpected => exact ⟨rfl, onward⟩
          | invalid fault => exact ⟨rfl, skipped⟩

end Attempt

theorem map_verdict_append (last other : Token) {tokens : List Token} (ends : Sealed tokens)
    (more : List Token) :
    (attempts last (tokens ++ more)).map Attempt.verdict =
      (attempts other tokens).map Attempt.verdict ++ (attempts last more).map Attempt.verdict := by
  fun_induction attempts other tokens with
  | case1 => rfl
  | case2 token rest attempt _ ih =>
      obtain ⟨same, onward⟩ := Attempt.read_append_sealed last other ends (by simp) .start more
      have within := Attempt.remaining_suffix other .start (token :: rest)
      rw [List.cons_append] at same onward ⊢
      rw [attempts_cons, List.map_cons, same, onward, ih (ends.of_suffix within)]
      rfl

def verdicts (tokens : List Token) : List (Option Stmt × Option SyntaxError) :=
  (attempts (closing tokens) (body tokens)).map Attempt.verdict

def syntaxErrors (tokens : List Token) : List SyntaxError :=
  match parse tokens with
  | .ok _ => []
  | .error errors => errors

def parsedStatements (tokens : List Token) : Program :=
  match parse tokens with
  | .ok program => program
  | .error _ => []

theorem filterMap_verdicts (tokens : List Token) :
    (verdicts tokens).filterMap Prod.snd =
        (attempts (closing tokens) (body tokens)).filterMap Attempt.error? ∧
      (verdicts tokens).filterMap Prod.fst =
        (attempts (closing tokens) (body tokens)).filterMap Attempt.statement? := by
  rw [verdicts, List.filterMap_map, List.filterMap_map]
  exact ⟨rfl, rfl⟩

theorem syntaxErrors_eq (tokens : List Token) :
    syntaxErrors tokens = (verdicts tokens).filterMap Prod.snd := by
  rw [(filterMap_verdicts tokens).1, syntaxErrors, parse]
  cases (attempts (closing tokens) (body tokens)).filterMap Attempt.error? <;> rfl

theorem mem_syntaxErrors_iff {tokens : List Token} {error : SyntaxError} :
    error ∈ syntaxErrors tokens ↔
      ∃ start attempt, (start, attempt) ∈ attemptsAt tokens ∧ attempt.error? = some error := by
  rw [syntaxErrors_eq, (filterMap_verdicts tokens).1, ← map_snd_attemptsAt, List.filterMap_map,
    List.mem_filterMap, Prod.exists]
  rfl

theorem parse_eq_ok_of_clean {tokens : List Token} (clean : syntaxErrors tokens = []) :
    parse tokens = .ok ((verdicts tokens).filterMap Prod.fst) := by
  rw [syntaxErrors_eq, (filterMap_verdicts tokens).1] at clean
  exact parse_eq_ok.2 ⟨clean, (filterMap_verdicts tokens).2.symm⟩

theorem parsedStatements_of_clean {tokens : List Token} (clean : syntaxErrors tokens = []) :
    parsedStatements tokens = (verdicts tokens).filterMap Prod.fst := by
  rw [parsedStatements, parse_eq_ok_of_clean clean]

theorem closing_append {before after : List Token}
    (inside : ∀ token ∈ before, token.kind ≠ .endOfFile) (some : after ≠ []) :
    closing (before ++ after) = closing after := by
  have missing : before.find? (fun token => token.kind = .endOfFile) = none := by
    simpa using inside
  rw [closing, closing, List.find?_append, missing, Option.none_or, List.getLast?_append,
    List.getLast?_eq_some_getLast some, Option.some_or]

theorem body_append {before : List Token} (after : List Token)
    (inside : ∀ token ∈ before, token.kind ≠ .endOfFile) :
    body (before ++ after) = before ++ body after := by
  rw [body, body]
  apply List.takeWhile_append_of_pos
  simpa using inside

theorem body_eq_self {tokens : List Token} (inside : ∀ token ∈ tokens, token.kind ≠ .endOfFile) :
    body tokens = tokens := by
  simpa [body] using body_append [] inside

theorem kind_ne_of_mem_body {tokens : List Token} {token : Token} (member : token ∈ body tokens) :
    token.kind ≠ .endOfFile := by
  simpa using List.mem_takeWhile_imp member

theorem verdicts_append {before : List Token} (ends : Sealed before)
    (inside : ∀ token ∈ before, token.kind ≠ .endOfFile) (after : List Token) :
    verdicts (before ++ after) = verdicts before ++ verdicts after := by
  cases after with
  | nil =>
      rw [List.append_nil]
      simp [verdicts, body, attempts_nil]
  | cons first rest =>
      rw [verdicts, verdicts, verdicts, closing_append inside (by simp), body_append _ inside,
        body_eq_self inside]
      exact map_verdict_append _ _ ends _

theorem parse_append_semicolon {before : List Token} {mark : Token} (after : List Token)
    (inside : ∀ token ∈ before, token.kind ≠ .endOfFile) (kind : mark.kind = .semicolon) :
    syntaxErrors (before ++ [mark] ++ after) =
        syntaxErrors (before ++ [mark]) ++ syntaxErrors after ∧
      (syntaxErrors (before ++ [mark] ++ after) = [] →
        parse (before ++ [mark] ++ after) =
          .ok (parsedStatements (before ++ [mark]) ++ parsedStatements after)) ∧
      verdicts (before ++ [mark] ++ after) = verdicts (before ++ [mark]) ++ verdicts after := by
  have ends : Sealed (before ++ [mark]) := by
    intro last final
    rw [List.getLast?_concat] at final
    cases final
    exact kind
  have complete : ∀ token ∈ before ++ [mark], token.kind ≠ .endOfFile := by
    intro token member
    rcases List.mem_append.1 member with earlier | final
    · exact inside token earlier
    · rw [List.mem_singleton.1 final, kind]
      decide
  have apart := verdicts_append ends complete after
  have errors : syntaxErrors (before ++ [mark] ++ after) =
      syntaxErrors (before ++ [mark]) ++ syntaxErrors after := by
    simp only [syntaxErrors_eq]
    rw [apart, List.filterMap_append]
  refine ⟨errors, ?_, apart⟩
  intro clean
  rw [parse_eq_ok_of_clean clean, apart, List.filterMap_append]
  obtain ⟨first, second⟩ := List.append_eq_nil_iff.1 (errors ▸ clean)
  rw [parsedStatements_of_clean first, parsedStatements_of_clean second]

theorem parse_append_semicolon_between_errors :
    syntaxErrors ([⟨.print, "imprimir", 1⟩, ⟨.leftParen, "(", 1⟩, ⟨.identifier, "x", 1⟩] ++
        [⟨.semicolon, ";", 1⟩] ++ [⟨.equals, "=", 2⟩, ⟨.semicolon, ";", 2⟩, ⟨.endOfFile, "", 3⟩]) =
      [⟨1, ";", "Expected ')' after expression."⟩, ⟨2, "=", "Expected expression."⟩] := by
  have inside : ∀ token ∈ [(⟨.print, "imprimir", 1⟩ : Token), ⟨.leftParen, "(", 1⟩,
      ⟨.identifier, "x", 1⟩], token.kind ≠ .endOfFile := by
    decide
  have apart := parse_append_semicolon [⟨.equals, "=", 2⟩, ⟨.semicolon, ";", 2⟩,
    ⟨.endOfFile, "", 3⟩] inside (rfl : (Token.mk .semicolon ";" 1).kind = .semicolon)
  rw [apart.1]
  cbv

end NumScript
