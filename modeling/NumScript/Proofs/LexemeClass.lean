import Mathlib
import NumScript.Lexeme

set_option autoImplicit false

namespace NumScript.Lexeme

def Digits (text : List Char) : Prop :=
  text ≠ [] ∧ ∀ character ∈ text, character.isDigit

def wordClass (word : List Char) : TokenKind :=
  if word = "declarar".toList then .declare
  else if word = "imprimir".toList then .print
  else .identifier

inductive Mark : Char -> TokenKind -> Prop where
  | leftParen : Mark '(' .leftParen
  | rightParen : Mark ')' .rightParen
  | semicolon : Mark ';' .semicolon
  | equals : Mark '=' .equals
  | plus : Mark '+' .plus
  | minus : Mark '-' .minus
  | star : Mark '*' .star
  | slash : Mark '/' .slash

inductive Spelled : Option TokenKind -> List Char -> Prop where
  | blank {character : Char} (known : character ∈ [' ', '\t', '\r', '\n']) :
      Spelled none [character]
  | comment {body : List Char} (line : '\n' ∉ body) : Spelled none ('/' :: '/' :: body)
  | whole {digits : List Char} (valid : Digits digits) : Spelled (some .number) digits
  | decimal {digits fraction : List Char} (valid : Digits digits) (broken : Digits fraction) :
      Spelled (some .number) (digits ++ '.' :: fraction)
  | word {first : Char} {rest : List Char} (begins : first.isAlpha ∨ first = '_')
      (onward : ∀ character ∈ rest, character.isAlphanum ∨ character = '_') :
      Spelled (some (wordClass (first :: rest))) (first :: rest)
  | mark {character : Char} {kind : TokenKind} (known : Mark character kind) :
      Spelled (some kind) [character]

theorem Spelled.ne_nil {kind : Option TokenKind} {text : List Char} (spelled : Spelled kind text) :
    text ≠ [] := by
  cases spelled with
  | whole valid => exact valid.1
  | blank | comment | decimal | word | mark => simp

theorem Spelled.kind_ne_endOfFile {kind : TokenKind} {text : List Char}
    (spelled : Spelled (some kind) text) : kind ≠ .endOfFile := by
  cases spelled with
  | whole | decimal => decide
  | mark known => cases known <;> decide
  | word =>
      unfold wordClass
      split
      next => decide
      next => split <;> decide

structure Longest (text : List Char) (lexeme : Lexeme) (rest : List Char) : Prop where
  whole : lexeme.text ++ rest = text
  spelled : Spelled lexeme.kind lexeme.text
  longest : ∀ kind piece, piece <+: text → Spelled kind piece → piece.length ≤ lexeme.text.length

theorem wordKind_eq (word : List Char) : wordKind word = wordClass word := by
  by_cases first : word = "declarar".toList
  · subst first
    decide
  · by_cases second : word = "imprimir".toList
    · subst second
      decide
    · rw [wordKind, wordClass, if_neg first, if_neg second]
      cases found : TokenKind.keyword? (String.ofList word) with
      | none => rfl
      | some kind =>
          obtain ⟨rfl | rfl, spelling⟩ := TokenKind.keyword?_eq_some_iff.1 found
          · exact absurd (by rw [Option.some.inj spelling, String.toList_ofList]) first
          · exact absurd (by rw [Option.some.inj spelling, String.toList_ofList]) second

theorem length_le_run {test : Char -> Bool} {piece : List Char}
    (passes : ∀ character ∈ piece, test character) (more : List Char) :
    piece.length ≤ (run test (piece ++ more)).1.length := by
  simp [run, List.takeWhile_append_of_pos passes]

theorem isBlank_iff {character : Char} :
    isBlank character ↔ character ∈ [' ', '\t', '\r', '\n'] := by
  simp [isBlank, or_assoc]

-- The classes of the first character exclude each other, so the order of the tests is immaterial.
theorem isBlank_eq_false {character : Char} (other : character.isAlphanum ∨ character = '_') :
    isBlank character = false ∧ character ≠ '/' := by
  constructor
  · by_contra blank
    rw [Bool.not_eq_false, isBlank_iff] at blank
    simp only [List.mem_cons, List.not_mem_nil, or_false] at blank
    rcases blank with rfl | rfl | rfl | rfl <;> revert other <;> decide
  · rintro rfl
    revert other
    decide

theorem isDigit_eq_false {character : Char} (start : isWordStart character) :
    character.isDigit = false := by
  by_contra digit
  simp only [isWordStart, Bool.or_eq_true, decide_eq_true_eq] at start
  rcases start with letter | rfl
  · simp only [Char.isAlpha, Char.isUpper, Char.isLower, Char.isDigit, Bool.or_eq_true,
      Bool.and_eq_true, decide_eq_true_eq, Bool.not_eq_false, UInt32.le_iff_toNat_le,
      ge_iff_le] at letter digit
    have upper : 'A'.val.toNat = 65 := rfl
    have lower : 'a'.val.toNat = 97 := rfl
    have nine : '9'.val.toNat = 57 := rfl
    omega
  · exact digit (by decide)

theorem length_le_number {digits fraction more : List Char} (valid : Digits digits)
    (broken : Digits fraction) :
    (digits ++ '.' :: fraction).length ≤
      (number (digits ++ '.' :: fraction ++ more)).1.length := by
  obtain ⟨-, whole⟩ := valid
  obtain ⟨some, places⟩ := broken
  cases fraction with
  | nil => contradiction
  | cons first rest =>
      have digit : first.isDigit := places first List.mem_cons_self
      have point : ('.' : Char).isDigit = false := by decide
      have run := length_le_run places more
      simp only [number, Lexeme.run, List.append_assoc, List.cons_append,
        List.takeWhile_append_of_pos whole, List.dropWhile_append_of_pos whole] at run ⊢
      simp [point, fraction, digit, Lexeme.run] at run ⊢
      omega

theorem first?_blank {character : Char} (blank : isBlank character) (rest : List Char) :
    first? (character :: rest) = some (⟨none, [character]⟩, rest) := by
  simp [first?, blank]

theorem first?_comment (rest : List Char) :
    first? ('/' :: '/' :: rest) =
      some (⟨none, '/' :: '/' :: (run isCommentPart rest).1⟩, (run isCommentPart rest).2) := by
  have slash : isCommentPart '/' := by decide
  simp [first?, isBlank, run, List.takeWhile_cons_of_pos slash, List.dropWhile_cons_of_pos slash]

theorem first?_digit {character : Char} (digit : character.isDigit) (rest : List Char) :
    first? (character :: rest) =
      some (⟨some .number, (number (character :: rest)).1⟩, (number (character :: rest)).2) := by
  have part : character.isAlphanum ∨ character = '_' := by
    simp [Char.isAlphanum, digit]
  obtain ⟨solid, other⟩ := isBlank_eq_false part
  simp [first?, solid, other, digit]

theorem first?_word {character : Char} (start : isWordStart character) (rest : List Char) :
    first? (character :: rest) =
      some (⟨some (wordClass (run isWordPart (character :: rest)).1),
        (run isWordPart (character :: rest)).1⟩, (run isWordPart (character :: rest)).2) := by
  have part : character.isAlphanum ∨ character = '_' := by
    simpa [isWordPart] using isWordPart_of_isWordStart start
  obtain ⟨solid, other⟩ := isBlank_eq_false part
  simp [first?, solid, other, isDigit_eq_false start, start, wordKind_eq]

def ReadsAtLeast (kind : Option TokenKind) (piece text : List Char) : Prop :=
  ∃ lexeme rest, first? text = some (lexeme, rest) ∧ piece.length ≤ lexeme.text.length ∧
    (lexeme.text = piece → lexeme.kind = kind)

theorem first?_mark {character : Char} {kind : TokenKind} (known : Mark character kind)
    (more : List Char) : ReadsAtLeast (some kind) [character] (character :: more) := by
  cases known with
  | slash =>
      cases more with
      | nil => exact ⟨_, _, rfl, Nat.le_refl _, fun _ => rfl⟩
      | cons second more =>
          by_cases comment : second = '/'
          · subst comment
            exact ⟨_, _, first?_comment more, by simp, by simp⟩
          · refine ⟨⟨some .slash, ['/']⟩, second :: more, ?_, Nat.le_refl _, fun _ => rfl⟩
            simp [first?, isBlank, comment, isWordStart, TokenKind.mark?]
  | leftParen | rightParen | semicolon | equals | plus | minus | star =>
      exact ⟨_, _, rfl, Nat.le_refl _, fun _ => rfl⟩

theorem readsAtLeast_of_digits {digits piece : List Char} (valid : Digits digits)
    (tail more : List Char) (same : piece = digits ++ tail)
    (bound : piece.length ≤ (number (piece ++ more)).1.length) :
    ReadsAtLeast (some .number) piece (piece ++ more) := by
  obtain ⟨some, places⟩ := valid
  cases digits with
  | nil => contradiction
  | cons first rest =>
      subst same
      exact ⟨_, _, first?_digit (places first List.mem_cons_self) _, bound, fun _ => rfl⟩

theorem isWordPart_of_mem_word {first : Char} {rest : List Char} (start : isWordStart first)
    (onward : ∀ character ∈ rest, character.isAlphanum ∨ character = '_') :
    ∀ character ∈ first :: rest, isWordPart character := by
  intro character member
  rcases List.mem_cons.1 member with rfl | later
  · exact isWordPart_of_isWordStart start
  · simpa [isWordPart] using onward character later

theorem readsAtLeast_of_spelled {kind : Option TokenKind} {piece : List Char}
    (spelled : Spelled kind piece) (more : List Char) :
    ReadsAtLeast kind piece (piece ++ more) := by
  cases spelled with
  | blank known =>
      exact ⟨_, _, first?_blank (isBlank_iff.2 known) more, Nat.le_refl _, fun _ => rfl⟩
  | @comment body line =>
      have within : ∀ character ∈ body, isCommentPart character := by
        intro character member
        simp only [isCommentPart, bne_iff_ne]
        rintro rfl
        exact line member
      refine ⟨_, _, first?_comment (body ++ more), ?_, fun _ => rfl⟩
      simpa using length_le_run within more
  | whole valid =>
      refine readsAtLeast_of_digits valid [] more (by simp) ?_
      have run := length_le_run valid.2 more
      simp only [number, List.length_append]
      omega
  | decimal valid broken =>
      exact readsAtLeast_of_digits valid _ more rfl (length_le_number valid broken)
  | @word first rest begins onward =>
      have start : isWordStart first := by simpa [isWordStart] using begins
      have within := isWordPart_of_mem_word start onward
      exact ⟨_, _, first?_word start (rest ++ more), length_le_run within more,
        congrArg (fun word => some (wordClass word))⟩
  | mark known => exact first?_mark known more

theorem mem_run {test : Char -> Bool} {text : List Char} {character : Char}
    (member : character ∈ (run test text).1) : test character :=
  List.mem_takeWhile_imp member

theorem spelled_number {character : Char} (digit : character.isDigit) (rest : List Char) :
    Spelled (some .number) (number (character :: rest)).1 := by
  have valid : Digits (run Char.isDigit (character :: rest)).1 :=
    ⟨by simp [run, digit], fun _ => mem_run⟩
  simp only [number]
  generalize (run Char.isDigit (character :: rest)).2 = tail
  unfold fraction
  split
  next first rest =>
    split
    next places => exact .decimal valid ⟨by simp [run, places], fun _ => mem_run⟩
    next => simpa using Spelled.whole valid
  next => simpa using Spelled.whole valid

theorem mark?_eq_some_iff {character : Char} {kind : TokenKind} :
    TokenKind.mark? character = some kind ↔ Mark character kind := by
  constructor
  · intro known
    unfold TokenKind.mark? at known
    split at known <;> cases known <;> constructor
  · intro mark
    cases mark <;> rfl

theorem spelled_word {character : Char} (start : isWordStart character) (rest : List Char) :
    Spelled (some (wordClass (run isWordPart (character :: rest)).1))
      (run isWordPart (character :: rest)).1 := by
  have begins : character.isAlpha ∨ character = '_' := by simpa [isWordStart] using start
  have whole : (run isWordPart (character :: rest)).1 = character :: (run isWordPart rest).1 :=
    List.takeWhile_cons_of_pos (isWordPart_of_isWordStart start)
  rw [whole]
  refine .word begins ?_
  intro part member
  simpa [isWordPart] using mem_run member

theorem spelled_comment (rest : List Char) :
    Spelled none ('/' :: '/' :: (run isCommentPart rest).1) := by
  refine .comment ?_
  intro newline
  exact absurd (mem_run newline) (by decide)

theorem spelled_of_first? {text rest : List Char} {lexeme : Lexeme}
    (found : first? text = some (lexeme, rest)) : Spelled lexeme.kind lexeme.text := by
  cases text with
  | nil => cases found
  | cons character tail =>
      by_cases blank : isBlank character
      · rw [first?_blank blank] at found
        cases found
        exact .blank (isBlank_iff.1 blank)
      by_cases digit : character.isDigit
      · rw [first?_digit digit] at found
        cases found
        exact spelled_number digit tail
      by_cases start : isWordStart character
      · rw [first?_word start] at found
        cases found
        exact spelled_word start tail
      -- What is left begins with a mark; of these only a slash may begin something longer.
      by_cases comment : character = '/' ∧ tail.head? = some '/'
      · obtain ⟨rfl, second⟩ := comment
        obtain ⟨others, rfl⟩ := List.head?_eq_some_iff.1 second
        rw [first?_comment] at found
        cases found
        exact spelled_comment others
      · simp only [first?, blank, comment, digit, start, if_false, Bool.false_eq_true] at found
        obtain ⟨kind, known, same⟩ := Option.map_eq_some_iff.1 found
        cases same
        exact .mark (mark?_eq_some_iff.1 known)

theorem longest_of_first? {text rest : List Char} {lexeme : Lexeme}
    (found : first? text = some (lexeme, rest)) : Longest text lexeme rest := by
  refine ⟨first?_append found, spelled_of_first? found, ?_⟩
  rintro kind piece ⟨more, rfl⟩ spelled
  obtain ⟨other, tail, read, bound, -⟩ := readsAtLeast_of_spelled spelled more
  rw [found] at read
  cases read
  exact bound

theorem first?_eq_none_iff {text : List Char} :
    first? text = none ↔ ∀ kind piece, piece <+: text → ¬ Spelled kind piece := by
  constructor
  · rintro missing kind piece ⟨more, rfl⟩ spelled
    obtain ⟨lexeme, rest, read, -⟩ := readsAtLeast_of_spelled spelled more
    rw [missing] at read
    cases read
  · intro nothing
    cases found : first? text with
    | none => rfl
    | some split =>
        obtain ⟨lexeme, rest⟩ := split
        have spelled := spelled_of_first? found
        exact absurd spelled (nothing _ _ ⟨rest, first?_append found⟩)

theorem first?_of_longest {text rest : List Char} {lexeme : Lexeme}
    (most : Longest text lexeme rest) : first? text = some (lexeme, rest) := by
  obtain ⟨whole, spelled, longest⟩ := most
  obtain ⟨other, tail, read, bound, same⟩ := readsAtLeast_of_spelled spelled rest
  rw [whole] at read
  have append := first?_append read
  have most := longest _ _ ⟨tail, append⟩ (spelled_of_first? read)
  obtain ⟨texts, rests⟩ := List.append_inj (append.trans whole.symm) (Nat.le_antisymm most bound)
  obtain ⟨kind, text⟩ := lexeme
  obtain ⟨otherKind, otherText⟩ := other
  simp only at texts same
  rw [read, texts, same texts, rests]

theorem first?_eq_some_iff {text rest : List Char} {lexeme : Lexeme} :
    first? text = some (lexeme, rest) ↔ Longest text lexeme rest :=
  ⟨longest_of_first?, first?_of_longest⟩

end NumScript.Lexeme
