import NumScript.Proofs.MaximalMunch

set_option autoImplicit false

namespace NumScript

namespace Lexeme

theorem line_of_mem_tokens {line : Nat} {lexemes : List Lexeme} {token : Token}
    (member : token ∈ tokens line lexemes) :
    line ≤ token.line ∧ token.line ≤ line + newlines (lexemes.flatMap Lexeme.text) := by
  induction lexemes generalizing line with
  | nil => cases member
  | cons lexeme rest ih =>
      have within : newlines ((lexeme :: rest).flatMap Lexeme.text) =
          newlines lexeme.text + newlines (rest.flatMap Lexeme.text) :=
        newlines_append _ _
      rw [within]
      rcases List.mem_append.1 member with first | later
      · obtain ⟨kind, -, rfl⟩ := Option.map_eq_some_iff.1 (Option.mem_toList.1 first)
        exact ⟨Nat.le_refl line, Nat.le_add_right line _⟩
      · have bounds := ih later
        omega

theorem tokens_pairwise (line : Nat) (lexemes : List Lexeme) :
    (tokens line lexemes).Pairwise (fun first second => first.line ≤ second.line) := by
  induction lexemes generalizing line with
  | nil => exact .nil
  | cons lexeme rest ih =>
      have onward := ih (line + newlines lexeme.text)
      cases kind : lexeme.kind with
      | none => simpa [tokens, kind] using onward
      | some kind' =>
          simp only [tokens, kind, Option.map_some, Option.toList_some, List.singleton_append]
          refine onward.cons ?_
          intro token member
          exact Nat.le_trans (Nat.le_add_right line _) (line_of_mem_tokens member).1

end Lexeme

theorem lines_of_tokenize {source : String} {tokens : List Token}
    (scanned : tokenize source = .ok tokens) :
    tokens.Pairwise (fun first second => first.line ≤ second.line) ∧
      ∀ token ∈ tokens, 1 ≤ token.line ∧ token.line ≤ 1 + newlines source.toList := by
  obtain ⟨whole, rfl⟩ := tokenize_eq_ok_iff.1 scanned
  have text := Lexeme.split_append source.toList
  rw [whole, List.append_nil] at text
  have bounds : ∀ token ∈ Lexeme.tokens 1 (Lexeme.split source.toList).1,
      1 ≤ token.line ∧ token.line ≤ 1 + newlines source.toList := by
    intro token member
    rw [← text]
    exact Lexeme.line_of_mem_tokens member
  constructor
  · rw [List.pairwise_append]
    refine ⟨Lexeme.tokens_pairwise 1 _, List.pairwise_singleton _ _, ?_⟩
    intro token member ending final
    rw [List.mem_singleton.1 final]
    exact (bounds token member).2
  · intro token member
    rcases List.mem_append.1 member with inside | final
    · exact bounds token inside
    · rw [List.mem_singleton.1 final]
      exact ⟨Nat.le_add_right 1 _, Nat.le_refl _⟩

end NumScript
