import NumScript.Proofs.Lines.Parsing
import NumScript.Proofs.MaximalMunch

set_option autoImplicit false

namespace NumScript

namespace Lexeme

theorem run_append_of_stops {test : Char -> Bool} {mark : Char} (stops : test mark = false)
    (text more : List Char) :
    run test (text ++ mark :: more) =
      ((run test text).1, (run test text).2 ++ mark :: more) := by
  induction text with
  | nil => simp [run, stops]
  | cons character rest ih =>
      simp only [run, Prod.mk.injEq] at ih
      by_cases passes : test character <;> simp [run, passes, ih]

structure Divides (mark : Char) : Prop where
  point : mark ≠ '.'
  word : isWordPart mark = false

theorem Divides.digit {mark : Char} (divides : Divides mark) : mark.isDigit = false := by
  have word := divides.word
  simp only [isWordPart, Char.isAlphanum, Bool.or_eq_false_iff] at word
  exact word.1.2

section

variable {mark : Char} (divides : Divides mark)

include divides

theorem fraction_append_of_divides (text more : List Char) :
    fraction (text ++ mark :: more) = ((fraction text).1, (fraction text).2 ++ mark :: more) := by
  -- The mark may stand where the point is expected, or the digit behind it.
  rcases text with _ | ⟨point, _ | ⟨digit, rest⟩⟩
  · simp [fraction, divides.point]
  · by_cases dot : point = '.'
    · simp [fraction, dot, divides.digit]
    · simp [fraction, dot]
  · by_cases dot : point = '.'
    · have onward := run_append_of_stops divides.digit (digit :: rest) more
      rw [List.cons_append] at onward
      by_cases place : digit.isDigit
      · simp [fraction, dot, place, onward]
      · simp [fraction, dot, place]
    · simp [fraction, dot]

theorem number_append_of_divides (text more : List Char) :
    number (text ++ mark :: more) = ((number text).1, (number text).2 ++ mark :: more) := by
  simp only [number, run_append_of_stops divides.digit, fraction_append_of_divides divides]

theorem first?_append_of_divides {text : List Char} (nonempty : text ≠ [])
    (plain : ¬ ['/', '/'] <+: text ++ [mark]) (more : List Char) :
    first? (text ++ mark :: more) =
      (first? text).map (fun (lexeme, rest) => (lexeme, rest ++ mark :: more)) := by
  cases text with
  | nil => contradiction
  | cons character rest =>
      have alone : ¬ (character = '/' ∧ rest.head? = some '/') := by
        rintro ⟨rfl, second⟩
        obtain ⟨others, rfl⟩ := List.head?_eq_some_iff.1 second
        exact plain ⟨others ++ [mark], rfl⟩
      have still : ¬ (character = '/' ∧ (rest ++ mark :: more).head? = some '/') := by
        cases rest with
        | nil =>
            rintro ⟨rfl, second⟩
            cases second
            exact plain ⟨[], rfl⟩
        | cons second rest => exact alone
      have digits := number_append_of_divides divides (character :: rest) more
      have word := run_append_of_stops divides.word (character :: rest) more
      rw [List.cons_append] at digits word
      simp only [List.cons_append, first?, alone, still, digits, word, if_false]
      split_ifs <;> try rfl
      cases TokenKind.mark? character <;> rfl

end

theorem divides_newline : Divides '\n' :=
  ⟨by decide, by decide⟩

theorem first?_append_newline {text : List Char} (nonempty : text ≠ []) (more : List Char) :
    first? (text ++ '\n' :: more) =
      (first? text).map (fun (lexeme, rest) => (lexeme, rest ++ '\n' :: more)) := by
  by_cases comment : ['/', '/'] <+: text
  · obtain ⟨body, rfl⟩ := comment
    have stops : isCommentPart '\n' = false := by decide
    have ends := run_append_of_stops stops body more
    simp only [List.cons_append, List.nil_append, first?_comment, ends, Option.map_some]
  · refine first?_append_of_divides divides_newline nonempty ?_ more
    intro begun
    rcases List.prefix_concat_iff.1 begun with same | within
    · simpa using congrArg List.getLast? same
    · exact comment within

theorem first?_newline (more : List Char) :
    first? ('\n' :: more) = some (⟨none, ['\n']⟩, more) :=
  first?_blank rfl more

/-- Whatever lexeme a part of the text begins with, it ends in front of what stands behind. -/
def Apart (text behind : List Char) : Prop :=
  ∀ part, part <:+ text → part ≠ [] →
    first? (part ++ behind) = (first? part).map (fun (lexeme, rest) => (lexeme, rest ++ behind))

theorem apart_newline (text more : List Char) : Apart text ('\n' :: more) :=
  fun _ _ nonempty => first?_append_newline nonempty more

theorem Apart.of_first? {text behind rest : List Char} {lexeme : Lexeme}
    (apart : Apart text behind) (found : first? text = some (lexeme, rest)) :
    first? (text ++ behind) = some (lexeme, rest ++ behind) ∧ Apart rest behind := by
  have nonempty : text ≠ [] := by
    rintro rfl
    cases found
  have shorter : rest <:+ text := ⟨lexeme.text, first?_append found⟩
  refine ⟨?_, fun part inside => apart part (inside.trans shorter)⟩
  rw [apart text List.suffix_rfl nonempty, found]
  rfl

theorem split_append_of_apart {text behind : List Char} (apart : Apart text behind)
    (whole : (split text).2 = []) :
    split (text ++ behind) = ((split text).1 ++ (split behind).1, (split behind).2) := by
  fun_induction split text with
  | case1 text missing =>
      subst whole
      rfl
  | case2 text lexeme rest found _ ih =>
      obtain ⟨here, onward⟩ := apart.of_first? found
      rw [split_of_first?_eq_some here, ih onward whole]
      rfl

theorem split_append_of_stuck {text behind : List Char} (apart : Apart text behind)
    (stuck : (split text).2 ≠ []) :
    split (text ++ behind) = ((split text).1, (split text).2 ++ behind) := by
  fun_induction split text with
  | case1 text missing =>
      apply split_of_first?_eq_none
      rw [apart text List.suffix_rfl stuck, missing]
      rfl
  | case2 text lexeme rest found _ ih =>
      obtain ⟨here, onward⟩ := apart.of_first? found
      rw [split_of_first?_eq_some here, ih onward stuck]

theorem split_append_newline {text : List Char} (whole : (split text).2 = [])
    (more : List Char) :
    split (text ++ '\n' :: more) =
      ((split text).1 ++ ⟨none, ['\n']⟩ :: (split more).1, (split more).2) := by
  rw [split_append_of_apart (apart_newline text more) whole,
    split_of_first?_eq_some (first?_newline more)]

theorem tokens_add (line offset : Nat) (lexemes : List Lexeme) :
    tokens (line + offset) lexemes = (tokens line lexemes).map (Token.mapLine (· + offset)) := by
  induction lexemes generalizing line with
  | nil => rfl
  | cons lexeme rest ih =>
      rw [tokens, tokens, List.map_append, ← ih, Nat.add_right_comm]
      cases lexeme.kind <;> rfl

end Lexeme

def lineOffset (source : String) : Nat :=
  1 + newlines source.toList

theorem toList_append_newline (first second : String) :
    (first ++ "\n" ++ second).toList = first.toList ++ '\n' :: second.toList := by
  simp

theorem count_append_newline (first : String) (more : List Char) :
    (first.toList ++ '\n' :: more).count '\n' = more.count '\n' + lineOffset first := by
  simp only [lineOffset, newlines, List.count_append, List.count_cons_self]
  omega

theorem tokenize_append_newline {first : String} {tokens : List Token}
    (read : tokenize first = .ok (tokens ++ [⟨.endOfFile, "", lineOffset first⟩]))
    (second : String) :
    tokenize (first ++ "\n" ++ second) =
      match tokenize second with
      | .ok more => .ok (tokens ++ more.map (Token.mapLine (· + lineOffset first)))
      | .error error => .error (error.mapLine (· + lineOffset first)) := by
  obtain ⟨whole, same⟩ := tokenize_eq_ok_iff.1 read
  have found : tokens = Lexeme.tokens 1 (Lexeme.split first.toList).1 :=
    List.append_cancel_right same
  have cut := Lexeme.split_append_newline whole second.toList
  have lines := Lexeme.split_append first.toList
  rw [whole, List.append_nil] at lines
  cases other : tokenize second with
  | ok more =>
      obtain ⟨rest, rfl⟩ := tokenize_eq_ok_iff.1 other
      apply tokenize_eq_ok_iff.2
      rw [toList_append_newline, cut]
      refine ⟨rest, ?_⟩
      have onward : 1 + newlines first.toList + newlines ['\n'] = 1 + lineOffset first := by
        simp only [lineOffset, newlines, List.count_singleton_self]
        omega
      rw [Lexeme.tokens_append, lines, ← found, Lexeme.tokens, onward, Lexeme.tokens_add,
        count_append_newline, ← Nat.add_assoc]
      simp [Token.mapLine]
  | error error =>
      obtain ⟨before, character, after, cutSecond, stuck, rfl⟩ := tokenize_eq_error_iff.1 other
      apply tokenize_eq_error_iff.2
      rw [toList_append_newline, cut]
      refine ⟨first.toList ++ '\n' :: before, character, after, ?_, stuck, ?_⟩
      · rw [cutSecond, List.append_assoc, List.cons_append]
      · rw [count_append_newline, ← Nat.add_assoc]
        rfl

theorem tokenize_append_newline_of_error {first : String} {error : LexError}
    (failed : tokenize first = .error error) (second : String) :
    tokenize (first ++ "\n" ++ second) = .error error := by
  obtain ⟨before, character, after, whole, stuck, rfl⟩ := tokenize_eq_error_iff.1 failed
  have unread : (Lexeme.split first.toList).2 ≠ [] := by simp [stuck]
  have cut := Lexeme.split_append_of_stuck (Lexeme.apart_newline _ second.toList) unread
  refine tokenize_eq_error_iff.2
    ⟨before, character, after ++ '\n' :: second.toList, ?_, ?_, rfl⟩
  · simp [whole]
  · simp [cut, stuck]

theorem exists_tokens_of_tokenize {source : String} {tokens : List Token}
    (scanned : tokenize source = .ok tokens) :
    ∃ before, tokens = before ++ [⟨.endOfFile, "", lineOffset source⟩] :=
  ⟨_, (tokenize_eq_ok_iff.1 scanned).2⟩

theorem tokenize_newline_exact (first second : String) :
    (∀ tokens, tokenize first = .ok tokens →
      ∃ before, tokens = before ++ [⟨.endOfFile, "", lineOffset first⟩]) ∧
    tokenize (first ++ "\n" ++ second) =
      match tokenize first, tokenize second with
      | .error error, _ => .error error
      | .ok _, .error error => .error (error.mapLine (· + lineOffset first))
      | .ok tokens, .ok more =>
          .ok (tokens.dropLast ++ more.map (Token.mapLine (· + lineOffset first))) := by
  refine ⟨fun _ => exists_tokens_of_tokenize, ?_⟩
  cases scanned : tokenize first with
  | error error => exact tokenize_append_newline_of_error scanned second
  | ok tokens =>
      obtain ⟨before, rfl⟩ := exists_tokens_of_tokenize scanned
      rw [tokenize_append_newline scanned]
      cases tokenize second with
      | error error => rfl
      | ok more => simp only [List.dropLast_concat]

example : (tokenize ("1//." ++ "\n" ++ "/\n/2")).toOption =
    some [⟨.number, "1", 1⟩, ⟨.slash, "/", 2⟩, ⟨.slash, "/", 3⟩, ⟨.number, "2", 3⟩,
      ⟨.endOfFile, "", 3⟩] := by
  decide +kernel

end NumScript
