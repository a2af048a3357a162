import NumScript.Proofs.Layout
import NumScript.Proofs.NewlineBoundary

set_option autoImplicit false

namespace NumScript

open Lexeme

def beforeComment : List Char -> List Char
  | [] => []
  | '/' :: '/' :: _ => []
  | character :: rest => character :: beforeComment rest

def sourceLines (source : String) : List (List Char) :=
  source.toList.splitOn '\n'

def joinLines (ending : List Char) (lines : List (List Char)) : String :=
  String.ofList (ending.intercalate lines)

/-- A line with spaces, tabs and carriage returns behind it. -/
def Padded (line padded : List Char) : Prop :=
  ∃ blanks, (∀ character ∈ blanks, character ∈ [' ', '\t', '\r']) ∧ padded = line ++ blanks

theorem beforeComment_spec (line : List Char) :
    (beforeComment line = line ∧ ¬ ['/', '/'] <:+: line) ∨
      ∃ comment, line = beforeComment line ++ '/' :: '/' :: comment ∧
        ¬ ['/', '/'] <:+: beforeComment line ++ ['/'] := by
  fun_induction beforeComment line with
  | case1 => exact .inl ⟨rfl, by simp⟩
  | case2 comment => exact .inr ⟨comment, rfl, by simp [List.infix_cons_iff]⟩
  | case3 character rest other ih =>
      rcases ih with ⟨same, none⟩ | ⟨comment, same, none⟩
      · refine .inl ⟨congrArg _ same, ?_⟩
        rw [List.infix_cons_iff]
        rintro (⟨more, begun⟩ | within)
        · cases begun
          exact other more rfl rfl
        · exact none within
      · refine .inr ⟨comment, congrArg _ same, ?_⟩
        rw [List.cons_append, List.infix_cons_iff]
        rintro (⟨more, begun⟩ | within)
        · -- What stands behind the character begins as the rest of the line does.
          obtain ⟨rfl, onward⟩ := List.cons.inj begun
          cases before : beforeComment rest with
          | nil =>
              rw [before] at same
              exact other _ rfl same
          | cons second others =>
              rw [before] at same onward
              cases onward
              exact other _ rfl same
        · exact none within

structure Invisible (text : List Char) : Prop where
  whole : (split text).2 = []
  silent : ∀ line, Lexeme.tokens line (split text).1 = []
  inLine : newlines text = 0

theorem split_nil : split [] = ([], []) :=
  split_of_first?_eq_none rfl

theorem invisible_comment {comment : List Char} (line : '\n' ∉ comment) :
    Invisible ('/' :: '/' :: comment) := by
  have part : ∀ character ∈ comment, isCommentPart character := by
    intro character member
    simp only [isCommentPart, bne_iff_ne]
    rintro rfl
    exact line member
  have taken := List.takeWhile_eq_self_iff.2 part
  have left := List.dropWhile_eq_nil_iff.2 part
  have here := first?_comment comment
  simp only [run, taken, left] at here
  have cut := split_of_first?_eq_some here
  rw [split_nil] at cut
  refine ⟨by rw [cut], fun _ => by rw [cut]; rfl, ?_⟩
  simpa [newlines, List.count_eq_zero] using line

theorem invisible_blanks {blanks : List Char} (blank : ∀ character ∈ blanks, isBlank character)
    (line : '\n' ∉ blanks) : Invisible blanks := by
  obtain ⟨lexemes, cut, same⟩ := split_blanks_append blank []
  rw [List.append_nil, split_nil] at cut
  rw [split_nil] at same
  exact ⟨by rw [cut], fun line => by rw [cut, same]; rfl, List.count_eq_zero.2 line⟩

theorem tokenize_append_invisible {text behind : List Char} (apart : Apart text behind)
    (invisible : Invisible behind) :
    tokenize (String.ofList (text ++ behind)) = tokenize (String.ofList text) := by
  have pieces := split_append behind
  rw [invisible.whole, List.append_nil] at pieces
  simp only [tokenize, Scan.ofSource, String.toList_ofList]
  by_cases whole : (split text).2 = []
  · rw [split_append_of_apart apart whole]
    simp [Scan.finish, whole, invisible.whole, invisible.silent, pieces, invisible.inLine]
  · rw [split_append_of_stuck apart whole]
    obtain ⟨character, after, same⟩ := List.exists_cons_of_ne_nil whole
    simp [Scan.finish, same]

theorem apart_of_divides {text : List Char} {mark : Char} (divides : Divides mark)
    (plain : ¬ ['/', '/'] <:+: text ++ [mark]) (more : List Char) : Apart text (mark :: more) := by
  intro part inside nonempty
  refine first?_append_of_divides divides nonempty ?_ more
  intro begun
  exact plain (begun.isInfix.trans (List.suffix_append_self_iff.2 inside).isInfix)

theorem tokenize_append_comment {before comment : List Char}
    (first : ¬ ['/', '/'] <:+: before ++ ['/'])
    (single : '\n' ∉ before ++ '/' :: '/' :: comment) :
    tokenize (String.ofList (before ++ '/' :: '/' :: comment)) =
      tokenize (String.ofList before) := by
  have divides : Divides '/' := ⟨by decide, by decide⟩
  have inComment : '\n' ∉ comment := fun member => single (by simp [member])
  exact tokenize_append_invisible (apart_of_divides divides first _) (invisible_comment inComment)

theorem tokenize_beforeComment {line : List Char} (single : '\n' ∉ line) :
    tokenize (String.ofList (beforeComment line)) = tokenize (String.ofList line) := by
  rcases beforeComment_spec line with ⟨same, -⟩ | ⟨comment, same, first⟩
  · rw [same]
  · have whole := tokenize_append_comment first (same ▸ single)
    rw [← same] at whole
    exact whole.symm

theorem properties_of_padding {character : Char} (blank : character ∈ [' ', '\t', '\r']) :
    isBlank character ∧ Divides character ∧ character ≠ '/' ∧ character ≠ '\n' := by
  simp only [List.mem_cons, List.not_mem_nil, or_false] at blank
  rcases blank with rfl | rfl | rfl <;>
    exact ⟨by decide, ⟨by decide, by decide⟩, by decide, by decide⟩

theorem tokenize_append_padding {line blanks : List Char} (none : ¬ ['/', '/'] <:+: line)
    (blank : ∀ character ∈ blanks, character ∈ [' ', '\t', '\r']) :
    tokenize (String.ofList (line ++ blanks)) = tokenize (String.ofList line) := by
  cases blanks with
  | nil => rw [List.append_nil]
  | cons mark more =>
      have spaces : ∀ character ∈ mark :: more, isBlank character :=
        fun character member => (properties_of_padding (blank character member)).1
      have inLine : '\n' ∉ mark :: more :=
        fun member => (properties_of_padding (blank _ member)).2.2.2 rfl
      obtain ⟨-, divides, other, -⟩ := properties_of_padding (blank mark List.mem_cons_self)
      have plain : ¬ ['/', '/'] <:+: line ++ [mark] := by
        rw [List.infix_concat_iff]
        rintro (ends | inside)
        · have last := ends.getLast (by simp)
          rw [List.getLast_concat] at last
          exact other last.symm
        · exact none inside
      exact tokenize_append_invisible (apart_of_divides divides plain more)
        (invisible_blanks spaces inLine)

theorem tokenize_padded {line padded : List Char} (single : '\n' ∉ line)
    (padding : Padded line padded) :
    tokenize (String.ofList padded) = tokenize (String.ofList line) := by
  obtain ⟨blanks, blank, rfl⟩ := padding
  rcases beforeComment_spec line with ⟨-, none⟩ | ⟨comment, same, first⟩
  · exact tokenize_append_padding none blank
  · -- The blanks only make the comment longer.
    have longer : '\n' ∉ line ++ blanks := by
      rw [List.mem_append, not_or]
      exact ⟨single, fun member => (properties_of_padding (blank _ member)).2.2.2 rfl⟩
    rw [same] at single longer ⊢
    rw [List.append_assoc, List.cons_append, List.cons_append] at longer ⊢
    rw [tokenize_append_comment first longer, tokenize_append_comment first single]

theorem tokenize_append_newline_congr {first other second third : String}
    (same : tokenize first = tokenize other) (onward : tokenize second = tokenize third) :
    tokenize (first ++ "\n" ++ second) = tokenize (other ++ "\n" ++ third) := by
  cases scanned : tokenize first with
  | error error =>
      rw [tokenize_append_newline_of_error scanned,
        tokenize_append_newline_of_error (same.symm.trans scanned)]
  | ok tokens =>
      have rescanned := same.symm.trans scanned
      obtain ⟨before, rfl⟩ := exists_tokens_of_tokenize scanned
      obtain ⟨others, alike⟩ := exists_tokens_of_tokenize rescanned
      obtain ⟨rfl, last⟩ := List.append_inj' alike rfl
      have offset : lineOffset first = lineOffset other := by simpa using last
      rw [offset] at rescanned
      rw [tokenize_append_newline scanned, tokenize_append_newline rescanned, onward, offset]

theorem joinLines_singleton (ending line : List Char) :
    joinLines ending [line] = String.ofList line := by
  simp [joinLines, List.intercalate]

theorem joinLines_cons (line second : List Char) (rest : List (List Char)) :
    joinLines ['\n'] (line :: second :: rest) =
      String.ofList line ++ "\n" ++ joinLines ['\n'] (second :: rest) := by
  apply String.toList_inj.1
  simp [joinLines, List.intercalate]

theorem tokenize_joinLines_congr {lines others : List (List Char)}
    (same : List.Forall₂ (fun line other =>
      tokenize (String.ofList line) = tokenize (String.ofList other)) lines others) :
    tokenize (joinLines ['\n'] lines) = tokenize (joinLines ['\n'] others) := by
  induction same with
  | nil => rfl
  | cons first rest ih =>
      cases rest with
      | nil => rwa [joinLines_singleton, joinLines_singleton]
      | cons => rw [joinLines_cons, joinLines_cons, tokenize_append_newline_congr first ih]

theorem joinLines_sourceLines (source : String) :
    joinLines ['\n'] (sourceLines source) = source := by
  rw [joinLines, sourceLines, List.intercalate_splitOn, String.ofList_toList]

theorem newline_not_mem_of_mem_sourceLines {source : String} :
    ∀ line ∈ sourceLines source, '\n' ∉ line := by
  rw [sourceLines]
  induction source.toList with
  | nil => simp
  | cons character rest ih =>
      obtain ⟨first, others, same⟩ := List.exists_cons_of_ne_nil (List.splitOn_ne_nil '\n' rest)
      rw [same, List.forall_mem_cons] at ih
      rw [List.splitOn_cons_eq_if_modifyHead, same, List.modifyHead_cons]
      split
      next => exact List.forall_mem_cons.2 ⟨List.not_mem_nil, List.forall_mem_cons.2 ih⟩
      next other =>
        have apart : '\n' ≠ character := fun same => other (beq_iff_eq.2 same.symm)
        exact List.forall_mem_cons.2 ⟨List.not_mem_cons_of_ne_of_not_mem apart ih.1, ih.2⟩

theorem exists_padded (lines : List (List Char)) :
    ∃ padded, List.Forall₂ Padded lines padded ∧
      joinLines ['\r', '\n'] lines = joinLines ['\n'] padded := by
  induction lines with
  | nil => exact ⟨[], .nil, rfl⟩
  | cons line rest ih =>
      cases rest with
      | nil =>
          have plain : Padded line line := ⟨[], List.forall_mem_nil _, (List.append_nil line).symm⟩
          exact ⟨[line], .cons plain .nil, by rw [joinLines_singleton, joinLines_singleton]⟩
      | cons second rest =>
          obtain ⟨padded, padding, same⟩ := ih
          have returned : Padded line (line ++ ['\r']) := ⟨['\r'], by simp, rfl⟩
          refine ⟨(line ++ ['\r']) :: padded, .cons returned padding, ?_⟩
          cases padding with
          | cons =>
              rw [joinLines_cons, ← same]
              apply String.toList_inj.1
              simp [joinLines, List.intercalate_cons_cons]

theorem line_ends_invisible (source : String) :
    tokenize (joinLines ['\n'] ((sourceLines source).map beforeComment)) = tokenize source ∧
      (∀ padded, List.Forall₂ Padded (sourceLines source) padded →
        tokenize (joinLines ['\n'] padded) = tokenize source) ∧
      tokenize (joinLines ['\r', '\n'] (sourceLines source)) = tokenize source := by
  have single : ∀ line ∈ sourceLines source, '\n' ∉ line := newline_not_mem_of_mem_sourceLines
  have whole := congrArg tokenize (joinLines_sourceLines source)
  have cut : tokenize (joinLines ['\n'] ((sourceLines source).map beforeComment)) =
      tokenize source := by
    rw [← whole]
    apply tokenize_joinLines_congr
    rw [List.forall₂_map_left_iff, List.forall₂_same]
    exact fun line member => tokenize_beforeComment (single line member)
  have padding : ∀ padded, List.Forall₂ Padded (sourceLines source) padded →
      tokenize (joinLines ['\n'] padded) = tokenize source := by
    intro padded added
    rw [← whole, eq_comm]
    apply tokenize_joinLines_congr
    refine ((List.forall₂_and_left _ _).2 ⟨single, added⟩).imp ?_
    rintro line padded ⟨plain, longer⟩
    exact (tokenize_padded plain longer).symm
  obtain ⟨padded, added, same⟩ := exists_padded (sourceLines source)
  exact ⟨cut, padding, by rw [same, padding padded added]⟩

def slashesAtLineEnds : String :=
  "x//a//b\n1 /.\n2"

theorem line_ends_invisible_slashes :
    sourceLines slashesAtLineEnds = ["x//a//b".toList, "1 /.".toList, "2".toList] ∧
      tokenize "x//a//b \t\n1 /.\r\n2" = .error ⟨'.', 2⟩ ∧
      tokenize slashesAtLineEnds = .error ⟨'.', 2⟩ := by
  have lines : sourceLines slashesAtLineEnds =
      ["x//a//b".toList, "1 /.".toList, "2".toList] := by
    decide
  have plain : tokenize slashesAtLineEnds = .error ⟨'.', 2⟩ := by decide +kernel
  have added : List.Forall₂ Padded (sourceLines slashesAtLineEnds)
      ["x//a//b \t".toList, "1 /.\r".toList, "2".toList] := by
    rw [lines]
    exact .cons ⟨[' ', '\t'], by simp, rfl⟩
      (.cons ⟨['\r'], by simp, rfl⟩ (.cons ⟨[], by simp, rfl⟩ .nil))
  have same := (line_ends_invisible slashesAtLineEnds).2.1 _ added
  exact ⟨lines, same.trans plain, plain⟩

end NumScript
