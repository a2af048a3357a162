import NumScript.Proofs.MaximalMunch
import NumScript.Proofs.Runs
import NumScript.Proofs.SemicolonIsolation

set_option autoImplicit false

namespace NumScript

open Grammar

theorem parse_append_of_statements {before after : List Token} {program : Program}
    (sentences : Statements before program)
    (inside : ∀ token ∈ before, token.kind ≠ .endOfFile) (nonempty : after ≠ []) :
    parse (before ++ after) = (parse after).map (program ++ ·) := by
  obtain ⟨errors, statements⟩ :=
    attempts_of_statements_append (closing after) sentences (body after)
  rw [parse, closing_append inside nonempty, body_append after inside, parse]
  simp only [errors, statements]
  cases (attempts (closing after) (body after)).filterMap Attempt.error? <;> rfl

section

variable {before : List Token} {last : Token} (after : List Token)
  (inside : ∀ token ∈ before, token.kind ≠ .endOfFile) (kind : last.kind = .endOfFile)

include inside kind

theorem body_append_endOfFile : body (before ++ last :: after) = before := by
  rw [body_append _ inside]
  simp [body, kind]

theorem closing_append_endOfFile : closing (before ++ last :: after) = last := by
  rw [closing_append inside (List.cons_ne_nil last after)]
  simp [closing, kind]

end

theorem body_of_inside {tokens : List Token} (inside : ∀ token ∈ tokens, token.kind ≠ .endOfFile)
    (line : Nat) : body (tokens ++ [⟨.endOfFile, "", line⟩]) = tokens :=
  body_append_endOfFile [] inside rfl

theorem parse_endOfFile_eq_ok_iff {tokens : List Token} {program : Program}
    (inside : ∀ token ∈ tokens, token.kind ≠ .endOfFile) (line : Nat) :
    parse (tokens ++ [⟨.endOfFile, "", line⟩]) = .ok program ↔ Statements tokens program := by
  rw [parse_eq_ok, body_of_inside inside]
  constructor
  · rintro ⟨clean, rfl⟩
    exact statements_of_attempts _ tokens clean
  · exact attempts_of_statements _

theorem kind_ne_endOfFile_of_scanned (text : List Char) :
    ∀ token ∈ Lexeme.tokens 1 (Lexeme.split text).1, token.kind ≠ .endOfFile := by
  intro token member
  exact ((Munched.of_split [] text).significant token member).1

theorem programOfSource_eq_ok_iff_of_scanned {source : String} {tokens : List Token}
    {program : Program} (scanned : tokenize source = .ok tokens) :
    programOfSource source = .ok program ↔ parse tokens = .ok program := by
  rw [programOfSource_of_ok scanned]
  cases parse tokens <;> simp [Except.mapError]

theorem programOfSource_eq_ok_iff {source : String} {program : Program} :
    programOfSource source = .ok program ↔
      ∃ tokens, tokenize source = .ok (tokens ++ [⟨.endOfFile, "", 1 + newlines source.toList⟩]) ∧
        (∀ token ∈ tokens, token.kind ≠ .endOfFile) ∧ Statements tokens program := by
  constructor
  · intro read
    cases scanned : tokenize source with
    | error error =>
        rw [programOfSource_of_error scanned] at read
        cases read
    | ok whole =>
        rw [programOfSource_eq_ok_iff_of_scanned scanned] at read
        obtain ⟨-, rfl⟩ := tokenize_eq_ok_iff.1 scanned
        have inside := kind_ne_endOfFile_of_scanned source.toList
        exact ⟨_, rfl, inside, (parse_endOfFile_eq_ok_iff inside _).1 read⟩
  · rintro ⟨tokens, scanned, inside, sentences⟩
    rw [programOfSource_eq_ok_iff_of_scanned scanned]
    exact (parse_endOfFile_eq_ok_iff inside _).2 sentences

end NumScript
