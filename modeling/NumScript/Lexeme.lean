import NumScript.Token

set_option autoImplicit false

namespace NumScript

structure Lexeme where
  kind : Option TokenKind
  text : List Char
  deriving DecidableEq

namespace Lexeme

def isBlank (character : Char) : Bool :=
  character = ' ' || character = '\t' || character = '\r' || character = '\n'

def isWordStart (character : Char) : Bool :=
  -- Letters are those of ASCII; any other character is refused outside comments.
  character.isAlpha || character = '_'

def isWordPart (character : Char) : Bool :=
  character.isAlphanum || character = '_'

def isCommentPart (character : Char) : Bool :=
  character != '\n'

def wordKind (word : List Char) : TokenKind :=
  (TokenKind.keyword? (String.ofList word)).getD .identifier

def run (test : Char -> Bool) (text : List Char) : List Char × List Char :=
  (text.takeWhile test, text.dropWhile test)

@[simp] theorem run_append (test : Char -> Bool) (text : List Char) :
    (run test text).1 ++ (run test text).2 = text :=
  List.takeWhile_append_dropWhile

def fraction : List Char -> List Char × List Char
  | '.' :: digit :: rest =>
      -- A point without a digit behind it is not part of the number.
      if digit.isDigit then
        ('.' :: (run Char.isDigit (digit :: rest)).1, (run Char.isDigit (digit :: rest)).2)
      else ([], '.' :: digit :: rest)
  | text => ([], text)

@[simp] theorem fraction_append (text : List Char) :
    (fraction text).1 ++ (fraction text).2 = text := by
  unfold fraction
  split
  · split <;> simp
  · rfl

def number (text : List Char) : List Char × List Char :=
  let whole := run Char.isDigit text
  (whole.1 ++ (fraction whole.2).1, (fraction whole.2).2)

@[simp] theorem number_append (text : List Char) : (number text).1 ++ (number text).2 = text := by
  simp [number]

def first? : List Char -> Option (Lexeme × List Char)
  | [] => none
  | character :: rest =>
      let whole := character :: rest
      if isBlank character then some (⟨none, [character]⟩, rest)
      else if character = '/' ∧ rest.head? = some '/' then
        let comment := run isCommentPart whole
        some (⟨none, comment.1⟩, comment.2)
      else if character.isDigit then
        let digits := number whole
        some (⟨some .number, digits.1⟩, digits.2)
      else if isWordStart character then
        let word := run isWordPart whole
        some (⟨some (wordKind word.1), word.1⟩, word.2)
      else (TokenKind.mark? character).map (fun kind => (⟨some kind, [character]⟩, rest))

theorem first?_append {text rest : List Char} {lexeme : Lexeme}
    (found : first? text = some (lexeme, rest)) : lexeme.text ++ rest = text := by
  unfold first? at found
  split at found
  · simp at found
  · repeat' split at found
    case isFalse.isFalse.isFalse.isFalse =>
      obtain ⟨kind, known, same⟩ := Option.map_eq_some_iff.1 found
      simp only [Prod.mk.injEq] at same
      simp [← same.1, ← same.2]
    all_goals
      simp only [Option.some.injEq, Prod.mk.injEq] at found
      simp [← found.1, ← found.2]

theorem isWordPart_of_isWordStart {character : Char} (start : isWordStart character) :
    isWordPart character := by
  simp only [isWordStart, isWordPart, Bool.or_eq_true, Char.isAlphanum] at start ⊢
  exact start.imp_left .inl

theorem number_ne_nil {character : Char} {rest : List Char} (digit : character.isDigit) :
    (number (character :: rest)).1 ≠ [] := by
  simp [number, run, digit]

theorem first?_text_ne_nil {text rest : List Char} {lexeme : Lexeme}
    (found : first? text = some (lexeme, rest)) : lexeme.text ≠ [] := by
  unfold first? at found
  split at found
  · simp at found
  · repeat' split at found
    case isFalse.isFalse.isFalse.isFalse =>
      obtain ⟨kind, known, same⟩ := Option.map_eq_some_iff.1 found
      simp only [Prod.mk.injEq] at same
      simp [← same.1]
    all_goals
      simp only [Option.some.injEq, Prod.mk.injEq] at found
      rw [← found.1]
    · simp
    · rename_i slash
      simp [run, List.takeWhile_cons, slash.1, isCommentPart]
    · exact number_ne_nil (by assumption)
    · rename_i start
      simp [run, isWordPart_of_isWordStart start]

theorem length_lt_of_first? {text rest : List Char} {lexeme : Lexeme}
    (found : first? text = some (lexeme, rest)) : rest.length < text.length := by
  have whole := congrArg List.length (first?_append found)
  have nonempty := List.length_pos_iff.2 (first?_text_ne_nil found)
  simp only [List.length_append] at whole
  omega

/-- The lexemes of a text, and the text from the first place where no lexeme fits. -/
def split (text : List Char) : List Lexeme × List Char :=
  match found : first? text with
  | none => ([], text)
  | some (lexeme, rest) =>
      have := length_lt_of_first? found
      (lexeme :: (split rest).1, (split rest).2)
termination_by text.length

theorem split_of_first?_eq_none {text : List Char} (missing : first? text = none) :
    split text = ([], text) := by
  rw [split]
  split <;> simp_all

theorem split_of_first?_eq_some {text rest : List Char} {lexeme : Lexeme}
    (found : first? text = some (lexeme, rest)) :
    split text = (lexeme :: (split rest).1, (split rest).2) := by
  rw [split]
  split <;> simp_all

theorem split_append (text : List Char) :
    (split text).1.flatMap Lexeme.text ++ (split text).2 = text := by
  fun_induction split text with
  | case1 text missing => simp
  | case2 text lexeme rest found _ ih =>
      rw [List.flatMap_cons, List.append_assoc, ih]
      exact first?_append found

end Lexeme

end NumScript
