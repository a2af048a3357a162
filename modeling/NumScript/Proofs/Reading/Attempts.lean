import Mathlib
import NumScript.Attempt
import NumScript.Proofs.Reading.Statements

set_option autoImplicit false

namespace NumScript

open Grammar

namespace Attempt

theorem read_append (last : Token) {state next : PartialStmt} {before : List Token}
    (reads : state.LeadsTo before next) (rest : List Token) :
    read last state (before ++ rest) = read last next rest := by
  induction reads with
  | nil => rfl
  | cons stepped _ ih =>
      rw [List.cons_append, read, stepped]
      exact ih

inductive Decided (state : PartialStmt) : List Token -> Prop where
  | ended : Decided state []
  | done {token : Token} {rest : List Token} {statement : Stmt}
      (stepped : state.step token = .done statement) : Decided state (token :: rest)
  | unexpected {token : Token} {rest : List Token} (stepped : state.step token = .unexpected) :
      Decided state (token :: rest)
  | invalid {token : Token} {rest : List Token} {fault : SyntaxFault}
      (stepped : state.step token = .invalid fault) : Decided state (token :: rest)

theorem exists_decided (state : PartialStmt) (tokens : List Token) :
    ∃ before next rest, tokens = before ++ rest ∧ state.LeadsTo before next ∧
      Decided next rest := by
  induction tokens generalizing state with
  | nil => exact ⟨[], state, [], rfl, .nil, .ended⟩
  | cons token tokens ih =>
      cases taken : state.step token with
      | next middle =>
          obtain ⟨before, next, rest, rfl, reads, decided⟩ := ih middle
          exact ⟨token :: before, next, rest, rfl, .cons taken reads, decided⟩
      | done => exact ⟨[], state, token :: tokens, rfl, .nil, .done taken⟩
      | unexpected => exact ⟨[], state, token :: tokens, rfl, .nil, .unexpected taken⟩
      | invalid => exact ⟨[], state, token :: tokens, rfl, .nil, .invalid taken⟩

inductive Refusal (last : Token) (state : PartialStmt) :
    List Token -> SyntaxFault -> Token -> List Token -> Prop where
  | ended {before : List Token} {next : PartialStmt}
      (reads : state.LeadsTo before next) : Refusal last state before next.missing last []
  | unexpected {before rest : List Token} {next : PartialStmt} {token : Token}
      (reads : state.LeadsTo before next) (stepped : next.step token = .unexpected) :
      Refusal last state (before ++ token :: rest) next.missing token (token :: rest)
  | invalid {before rest : List Token} {next : PartialStmt} {token : Token} {fault : SyntaxFault}
      (reads : state.LeadsTo before next) (stepped : next.step token = .invalid fault) :
      Refusal last state (before ++ token :: rest) fault token rest

theorem refusal_of_read {last blamed : Token} {state : PartialStmt} {tokens unread : List Token}
    {fault : SyntaxFault} (refused : read last state tokens = .refused fault blamed unread) :
    Refusal last state tokens fault blamed unread := by
  obtain ⟨before, next, rest, rfl, reads, decided⟩ := exists_decided state tokens
  rw [read_append last reads] at refused
  cases decided with
  | ended =>
      cases refused
      rw [List.append_nil]
      exact .ended reads
  | done stepped => simp [read, stepped] at refused
  | unexpected stepped =>
      simp only [read, stepped, Attempt.refused.injEq] at refused
      obtain ⟨rfl, rfl, rfl⟩ := refused
      exact .unexpected reads stepped
  | invalid stepped =>
      simp only [read, stepped, Attempt.refused.injEq] at refused
      obtain ⟨rfl, rfl, rfl⟩ := refused
      exact .invalid reads stepped

theorem read_of_statement (last : Token) {tokens : List Token} {statement : Stmt}
    (sentence : Statement tokens statement) (rest : List Token) :
    read last .start (tokens ++ rest) = .parsed statement rest := by
  obtain ⟨before, token, state, rfl, reads, finished⟩ := PartialStmt.accepts_iff.2 sentence
  rw [List.append_assoc, read_append last reads]
  simp [read, finished]

theorem read_eq_parsed_iff {last : Token} {tokens unread : List Token} {statement : Stmt} :
    read last .start tokens = .parsed statement unread ↔
      ∃ sentence, tokens = sentence ++ unread ∧ Statement sentence statement := by
  constructor
  · intro parsed
    obtain ⟨before, state, rest, rfl, reads, decided⟩ := exists_decided .start tokens
    rw [read_append last reads] at parsed
    cases decided with
    | ended => cases parsed
    | @done token rest finished stepped =>
        simp only [read, stepped, Attempt.parsed.injEq] at parsed
        obtain ⟨rfl, rfl⟩ := parsed
        refine ⟨before ++ [token], by simp, ?_⟩
        exact PartialStmt.accepts_iff.1 ⟨before, token, state, rfl, reads, stepped⟩
    | unexpected stepped => simp [read, stepped] at parsed
    | invalid stepped => simp [read, stepped] at parsed
  · rintro ⟨sentence, rfl, sound⟩
    exact read_of_statement last sound unread

end Attempt

theorem attempts_nil (last : Token) : attempts last [] = [] := by
  rw [attempts]

theorem attempts_cons (last token : Token) (rest : List Token) :
    attempts last (token :: rest) =
      Attempt.read last .start (token :: rest) ::
        attempts last (Attempt.read last .start (token :: rest)).remaining := by
  rw [attempts]

theorem attempts_of_statement (last : Token) {tokens : List Token} {statement : Stmt}
    (sentence : Statement tokens statement) (rest : List Token) :
    attempts last (tokens ++ rest) = .parsed statement rest :: attempts last rest := by
  have parsed := Attempt.read_of_statement last sentence rest
  cases whole : tokens ++ rest with
  | nil =>
      rw [whole] at parsed
      cases parsed
  | cons first others =>
      rw [whole] at parsed
      rw [attempts_cons, parsed, Attempt.remaining]

theorem attempts_of_statements_append (last : Token) {tokens : List Token} {program : Program}
    (sentences : Statements tokens program) (rest : List Token) :
    (attempts last (tokens ++ rest)).filterMap Attempt.error? =
        (attempts last rest).filterMap Attempt.error? ∧
      (attempts last (tokens ++ rest)).filterMap Attempt.statement? =
        program ++ (attempts last rest).filterMap Attempt.statement? := by
  induction sentences with
  | nil => exact ⟨rfl, rfl⟩
  | cons first _ ih =>
      rw [List.append_assoc, attempts_of_statement last first]
      exact ⟨ih.1, congrArg (List.cons _) ih.2⟩

theorem attempts_of_statements (last : Token) {tokens : List Token} {program : Program}
    (sentences : Statements tokens program) :
    (attempts last tokens).filterMap Attempt.error? = [] ∧
      (attempts last tokens).filterMap Attempt.statement? = program := by
  simpa [attempts_nil] using attempts_of_statements_append last sentences []

theorem statements_of_attempts (last : Token) (tokens : List Token)
    (clean : (attempts last tokens).filterMap Attempt.error? = []) :
    Statements tokens ((attempts last tokens).filterMap Attempt.statement?) := by
  fun_induction attempts last tokens with
  | case1 => exact .nil
  | case2 token rest attempt _ ih =>
      cases made : attempt with
      | refused fault blamed unread => simp [made, Attempt.error?] at clean
      | parsed statement unread =>
          obtain ⟨sentence, same, sound⟩ := Attempt.read_eq_parsed_iff.1 made
          rw [made, List.filterMap_cons_none rfl] at clean
          rw [made] at ih
          rw [List.filterMap_cons, same]
          exact .cons sound (ih clean)

def attemptsOn (last : Token) (tokens : List Token) : List (List Token × Attempt) :=
  (tokens :: (attempts last tokens).map Attempt.remaining).zip (attempts last tokens)

def attemptsAt (tokens : List Token) : List (Nat × Attempt) :=
  (attemptsOn (closing tokens) (body tokens)).map
    (fun (unread, attempt) => ((body tokens).length - unread.length, attempt))

theorem map_snd_attemptsAt (tokens : List Token) :
    (attemptsAt tokens).map Prod.snd = attempts (closing tokens) (body tokens) := by
  rw [attemptsAt, List.map_map]
  apply List.map_snd_zip
  simp

theorem Attempt.resume_suffix (tokens : List Token) : resume tokens <:+ tokens := by
  induction tokens with
  | nil => exact List.nil_suffix
  | cons token rest ih =>
      rw [resume]
      split
      · exact List.suffix_cons token rest
      · exact ih.trans (List.suffix_cons token rest)

theorem Attempt.remaining_suffix (last : Token) (state : PartialStmt) (tokens : List Token) :
    (read last state tokens).remaining <:+ tokens := by
  obtain ⟨before, next, rest, rfl, reads, decided⟩ := exists_decided state tokens
  rw [read_append last reads]
  refine List.IsSuffix.trans ?_ (List.suffix_append before rest)
  cases decided with
  | ended => exact resume_suffix []
  | done stepped =>
      simp only [read, stepped]
      exact List.suffix_cons _ _
  | unexpected stepped =>
      simp only [read, stepped]
      exact resume_suffix _
  | invalid stepped =>
      simp only [read, stepped]
      exact (resume_suffix _).trans (List.suffix_cons _ _)

theorem suffix_of_mem_attemptsOn {last : Token} {tokens unread : List Token} {attempt : Attempt}
    (made : (unread, attempt) ∈ attemptsOn last tokens) :
    unread <:+ tokens ∧ attempt = Attempt.read last .start unread := by
  unfold attemptsOn at made
  fun_induction attempts last tokens with
  | case1 => simp at made
  | case2 token rest current _ ih =>
      rcases List.mem_cons.1 made with first | later
      · obtain ⟨same, made⟩ := Prod.mk.inj first
        rw [same, made]
        exact ⟨List.suffix_refl _, rfl⟩
      · obtain ⟨within, same⟩ := ih later
        exact ⟨within.trans (Attempt.remaining_suffix last .start (token :: rest)), same⟩

theorem read_of_mem_attemptsAt {tokens : List Token} {start : Nat} {attempt : Attempt}
    (made : (start, attempt) ∈ attemptsAt tokens) :
    start ≤ (body tokens).length ∧
      attempt = Attempt.read (closing tokens) .start ((body tokens).drop start) := by
  obtain ⟨⟨unread, attempt⟩, made, same⟩ := List.mem_map.1 made
  cases same
  obtain ⟨⟨before, whole⟩, rfl⟩ := suffix_of_mem_attemptsOn made
  rw [← whole]
  simp

end NumScript
