import NumScript.Proofs.LexemeClass
import NumScript.Scan

set_option autoImplicit false

namespace NumScript

open Lexeme

/--
Cuts a text into longest lexemes as far as `rest`. What stands before the text decides the line of
its first token; blanks and comments become no token.
-/
inductive Munched : List Char -> List Char -> List Token -> List Char -> Prop where
  | stop {before text : List Char} : Munched before text [] text
  | trivia {before text piece middle rest : List Char} {tokens : List Token}
      (longest : Longest text ⟨none, piece⟩ middle)
      (onward : Munched (before ++ piece) middle tokens rest) : Munched before text tokens rest
  | token {before text piece middle rest : List Char} {kind : TokenKind} {tokens : List Token}
      (longest : Longest text ⟨some kind, piece⟩ middle)
      (onward : Munched (before ++ piece) middle tokens rest) :
      Munched before text (⟨kind, String.ofList piece, 1 + before.count '\n'⟩ :: tokens) rest

namespace Munched

theorem of_split (before text : List Char) :
    Munched before text (Lexeme.tokens (1 + before.count '\n') (split text).1) (split text).2 := by
  fun_induction split text generalizing before with
  | case1 text missing => exact .stop
  | case2 text lexeme rest found _ ih =>
      obtain ⟨kind, piece⟩ := lexeme
      have onward := ih (before ++ piece)
      rw [List.count_append, ← Nat.add_assoc] at onward
      cases kind with
      | none => exact .trivia (first?_eq_some_iff.1 found) onward
      | some kind => exact .token (first?_eq_some_iff.1 found) onward

theorem eq_split {before text rest : List Char} {tokens : List Token}
    (munched : Munched before text tokens rest) (ended : first? rest = none) :
    tokens = Lexeme.tokens (1 + before.count '\n') (split text).1 ∧ rest = (split text).2 := by
  induction munched with
  | stop =>
      rw [split_of_first?_eq_none ended]
      exact ⟨rfl, rfl⟩
  | trivia longest _ ih =>
      rw [split_of_first?_eq_some (first?_eq_some_iff.2 longest)]
      obtain ⟨tokens, rest⟩ := ih ended
      rw [List.count_append, ← Nat.add_assoc] at tokens
      exact ⟨tokens, rest⟩
  | token longest _ ih =>
      rw [split_of_first?_eq_some (first?_eq_some_iff.2 longest)]
      obtain ⟨tokens, rest⟩ := ih ended
      rw [List.count_append, ← Nat.add_assoc] at tokens
      exact ⟨congrArg _ tokens, rest⟩

theorem spelled {before text rest : List Char} {tokens : List Token}
    (munched : Munched before text tokens rest) :
    ∀ token ∈ tokens, Spelled (some token.kind) token.text.toList := by
  induction munched with
  | stop => simp
  | trivia _ _ ih => exact ih
  | token longest _ ih =>
      intro token member
      rcases List.mem_cons.1 member with rfl | later
      · simpa using longest.spelled
      · exact ih token later

theorem significant {before text rest : List Char} {tokens : List Token}
    (munched : Munched before text tokens rest) :
    ∀ token ∈ tokens, token.kind ≠ .endOfFile ∧ token.text ≠ "" := by
  intro token member
  have known := munched.spelled token member
  refine ⟨known.kind_ne_endOfFile, ?_⟩
  intro empty
  exact known.ne_nil (by simp [empty])

end Munched

theorem Lexeme.first?_split (text : List Char) : first? (split text).2 = none := by
  fun_induction split text with
  | case1 text missing => exact missing
  | case2 text lexeme rest found _ ih => exact ih

theorem tokenize_eq_ok_iff {source : String} {tokens : List Token} :
    tokenize source = .ok tokens ↔ (split source.toList).2 = [] ∧
      tokens = Lexeme.tokens 1 (split source.toList).1 ++
        [⟨.endOfFile, "", 1 + source.toList.count '\n'⟩] := by
  have whole := split_append source.toList
  unfold tokenize Scan.finish
  simp only [Scan.ofSource]
  cases ended : (split source.toList).2 with
  | nil =>
      rw [ended, List.append_nil] at whole
      simp [whole, newlines, eq_comm]
  | cons character after => simp

theorem tokenize_eq_error_iff {source : String} {error : LexError} :
    tokenize source = .error error ↔ ∃ before character after,
      source.toList = before ++ character :: after ∧
        (split source.toList).2 = character :: after ∧
        error = ⟨character, 1 + before.count '\n'⟩ := by
  have whole := split_append source.toList
  unfold tokenize Scan.finish
  simp only [Scan.ofSource]
  cases ended : (split source.toList).2 with
  | nil => simp
  | cons character after =>
      rw [ended] at whole
      constructor
      · intro failed
        cases failed
        exact ⟨_, character, after, whole.symm, rfl, rfl⟩
      · rintro ⟨before, _, _, same, here, rfl⟩
        cases here
        rw [List.append_cancel_right (whole.trans same)]
        rfl

theorem tokenize_exact (source : String) :
    (∀ tokens, tokenize source = .ok tokens ↔
      ∃ found, Munched [] source.toList found [] ∧
        tokens = found ++ [⟨.endOfFile, "", 1 + source.toList.count '\n'⟩]) ∧
    (∀ error, tokenize source = .error error ↔
      ∃ found before character after, source.toList = before ++ character :: after ∧
        Munched [] source.toList found (character :: after) ∧
        (∀ kind piece, piece <+: character :: after → ¬ Spelled kind piece) ∧
        error = ⟨character, 1 + before.count '\n'⟩) ∧
    ∀ found rest, Munched [] source.toList found rest →
      ∀ token ∈ found, token.kind ≠ .endOfFile ∧ token.text ≠ "" := by
  have cut := Munched.of_split [] source.toList
  refine ⟨?_, ?_, fun _ _ => Munched.significant⟩
  · intro tokens
    rw [tokenize_eq_ok_iff]
    constructor
    · rintro ⟨ended, rfl⟩
      rw [ended] at cut
      exact ⟨_, cut, rfl⟩
    · rintro ⟨found, munched, rfl⟩
      obtain ⟨same, ended⟩ := munched.eq_split rfl
      exact ⟨ended.symm, congrArg (· ++ _) same⟩
  · intro error
    rw [tokenize_eq_error_iff]
    constructor
    · rintro ⟨before, character, after, whole, ended, rfl⟩
      have missing := first?_split source.toList
      rw [ended] at cut missing
      exact ⟨_, before, character, after, whole, cut, first?_eq_none_iff.1 missing, rfl⟩
    · rintro ⟨found, before, character, after, whole, munched, nothing, rfl⟩
      obtain ⟨-, ended⟩ := munched.eq_split (first?_eq_none_iff.2 nothing)
      exact ⟨before, character, after, whole, ended.symm, rfl⟩

end NumScript
