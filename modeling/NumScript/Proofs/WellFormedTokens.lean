import NumScript.Proofs.Layout
import NumScript.Proofs.Lines.Order

set_option autoImplicit false

namespace NumScript

structure IsIdentifier (name : String) : Prop where
  word : ∃ first rest, name.toList = first :: rest ∧ (first.isAlpha ∨ first = '_') ∧
    ∀ character ∈ rest, character.isAlphanum ∨ character = '_'
  notDeclare : name ≠ "declarar"
  notPrint : name ≠ "imprimir"

def IsNumeral (literal : String) : Prop :=
  Lexeme.Digits literal.toList ∨ ∃ whole places, literal.toList = whole ++ '.' :: places ∧
    Lexeme.Digits whole ∧ Lexeme.Digits places

inductive Token.WellFormed (token : Token) : Prop where
  | fixed (spelling : token.kind.spelling? = some token.text)
  | identifier (kind : token.kind = .identifier) (name : IsIdentifier token.text)
  | number (kind : token.kind = .number) (literal : IsNumeral token.text)

theorem IsIdentifier.spelled {name : String} (identifier : IsIdentifier name) :
    Lexeme.Spelled (some .identifier) name.toList := by
  obtain ⟨⟨first, rest, same, begins, onward⟩, notDeclare, notPrint⟩ := identifier
  have spelled := Lexeme.Spelled.word begins onward
  have plain : Lexeme.wordClass (first :: rest) = .identifier := by
    rw [← same, Lexeme.wordClass, if_neg (mt String.toList_inj.1 notDeclare),
      if_neg (mt String.toList_inj.1 notPrint)]
  rwa [plain, ← same] at spelled

theorem IsNumeral.spelled {literal : String} (numeral : IsNumeral literal) :
    Lexeme.Spelled (some .number) literal.toList := by
  rcases numeral with whole | ⟨whole, places, same, valid, broken⟩
  · exact .whole whole
  · rw [same]
    exact .decimal valid broken

namespace Token

theorem WellFormed.spelled {token : Token} (formed : token.WellFormed) : token.Spelled := by
  cases formed with
  | fixed spelling => exact spelled_of_first?_whole (TokenKind.first?_of_spelling? spelling)
  | identifier kind name =>
      rw [Token.Spelled, kind]
      exact name.spelled
  | number kind literal =>
      rw [Token.Spelled, kind]
      exact literal.spelled

theorem wellFormed_of_word {token : Token} {first : Char} {rest : List Char}
    (text : token.text.toList = first :: rest)
    (kind : token.kind = Lexeme.wordClass (first :: rest)) (begins : first.isAlpha ∨ first = '_')
    (onward : ∀ character ∈ rest, character.isAlphanum ∨ character = '_') : token.WellFormed := by
  rw [← text, Lexeme.wordClass] at kind
  split at kind
  next declares =>
    refine .fixed ?_
    rw [kind, String.toList_inj.1 declares]
    rfl
  next notDeclare =>
    split at kind
    next prints =>
      refine .fixed ?_
      rw [kind, String.toList_inj.1 prints]
      rfl
    next notPrint =>
      exact .identifier kind
        ⟨⟨first, rest, text, begins, onward⟩, mt String.toList_inj.2 notDeclare,
          mt String.toList_inj.2 notPrint⟩

theorem Spelled.wellFormed {token : Token} (spelled : token.Spelled) : token.WellFormed := by
  rw [Token.Spelled] at spelled
  generalize text : token.text.toList = piece at spelled
  generalize kind : some token.kind = kind? at spelled
  cases spelled with
  | blank | comment => cases kind
  | whole valid => exact .number (Option.some.inj kind) (.inl (text ▸ valid))
  | decimal valid broken =>
      exact .number (Option.some.inj kind) (.inr ⟨_, _, text, valid, broken⟩)
  | word begins onward => exact wellFormed_of_word text (Option.some.inj kind) begins onward
  | mark known =>
      have spelling := TokenKind.spelling?_of_mark? (Lexeme.mark?_eq_some_iff.2 known)
      refine .fixed ?_
      rw [Option.some.inj kind, spelling, Option.some_inj, ← String.toList_inj]
      simp [text]

end Token

theorem wellFormed_of_tokenize {source : String} {tokens : List Token}
    (scanned : tokenize source = .ok tokens) : ∀ token ∈ tokens.dropLast, token.WellFormed := by
  obtain ⟨-, rfl⟩ := tokenize_eq_ok_iff.1 scanned
  intro token member
  rw [List.dropLast_concat] at member
  exact Token.Spelled.wellFormed ((Munched.of_split [] source.toList).spelled token member)

theorem tokenize_layout {tokens : List Token} (formed : ∀ token ∈ tokens, token.WellFormed)
    (ordered : (1 :: tokens.map Token.line).Pairwise (· ≤ ·)) :
    tokenize (String.ofList (layout 1 tokens)) =
      .ok (tokens ++ [⟨.endOfFile, "", (tokens.getLast?.map Token.line).getD 1⟩]) := by
  have spelled : ∀ token ∈ tokens, token.Spelled :=
    fun token member => (formed token member).spelled
  have laid : Laid 1 tokens (String.ofList (layout 1 tokens)).toList := by
    rw [String.toList_ofList]
    exact laid_layout spelled ordered
  rw [tokenize_of_laid laid, String.toList_ofList, newlines_layout spelled ordered]

theorem layout_scans_back_exact (tokens : List Token) :
    tokenize (String.ofList (layout 1 tokens)) =
        .ok (tokens ++ [⟨.endOfFile, "", (tokens.getLast?.map Token.line).getD 1⟩]) ↔
      (∀ token ∈ tokens, token.WellFormed ∧ 1 ≤ token.line) ∧
        tokens.Pairwise (fun first second => first.line ≤ second.line) := by
  constructor
  · intro scanned
    have formed := wellFormed_of_tokenize scanned
    obtain ⟨ordered, bounds⟩ := lines_of_tokenize scanned
    rw [List.dropLast_concat] at formed
    refine ⟨?_, (List.pairwise_append.1 ordered).1⟩
    intro token member
    exact ⟨formed token member, (bounds token (List.mem_append_left _ member)).1⟩
  · rintro ⟨sound, ordered⟩
    apply tokenize_layout (fun token member => (sound token member).1)
    rw [List.pairwise_cons, List.pairwise_map]
    refine ⟨?_, ordered⟩
    simpa using fun token member => (sound token member).2

example : String.ofList (layout 1 [⟨.slash, "/", 1⟩, ⟨.slash, "/", 1⟩, ⟨.number, "1", 3⟩,
    ⟨.number, "2.5", 3⟩, ⟨.identifier, "x", 4⟩]) = " / /\n\n1 2.5\nx" := by
  decide

end NumScript
