import NumScript.Proofs.MaximalMunch

set_option autoImplicit false

namespace NumScript

def TokenKind.continues : TokenKind -> Char -> Bool
  | declare | print | identifier => Lexeme.isWordPart
  -- The point counts even where no digit follows, since no other lexeme begins with it.
  | number => fun character => character.isDigit || character = '.'
  | slash => fun character => character = '/'
  | _ => fun _ => false

def Token.Spelled (token : Token) : Prop :=
  Lexeme.Spelled (some token.kind) token.text.toList

theorem spelled_of_first?_whole {kind : TokenKind} {text : String}
    (whole : Lexeme.first? text.toList = some (⟨some kind, text.toList⟩, [])) :
    Lexeme.Spelled (some kind) text.toList :=
  Lexeme.spelled_of_first? whole

theorem TokenKind.first?_of_spelling? {kind : TokenKind} {text : String}
    (fixed : kind.spelling? = some text) :
    Lexeme.first? text.toList = some (⟨some kind, text.toList⟩, []) := by
  cases kind <;> cases fixed <;> decide

/-- The text spells the tokens in order, where what stands before it ends on the given line. -/
inductive Laid : Nat -> List Token -> List Char -> Prop where
  | nil {line : Nat} {blanks : List Char} (blank : ∀ character ∈ blanks, Lexeme.isBlank character) :
      Laid line [] blanks
  | cons {line : Nat} {token : Token} {tokens : List Token} {blanks after : List Char}
      (blank : ∀ character ∈ blanks, Lexeme.isBlank character) (spelled : token.Spelled)
      (placed : token.line = line + newlines blanks)
      (apart : ∀ character ∈ after.head?, token.kind.continues character = false)
      (onward : Laid token.line tokens after) :
      Laid line (token :: tokens) (blanks ++ (token.text.toList ++ after))

namespace Lexeme

theorem continues_wordClass (word : List Char) : (wordClass word).continues = isWordPart := by
  unfold wordClass
  split
  · rfl
  · split <;> rfl

theorem run_of_apart {test : Char -> Bool} {piece after : List Char}
    (passes : ∀ character ∈ piece, test character)
    (apart : ∀ character ∈ after.head?, test character = false) :
    run test (piece ++ after) = (piece, after) := by
  rw [run, List.takeWhile_append_of_pos passes, List.dropWhile_append_of_pos passes]
  cases after with
  | nil => simp
  | cons character rest => simp [apart character rfl]

theorem number_of_apart {digits after : List Char} (valid : Digits digits)
    (apart : ∀ character ∈ after.head?, TokenKind.number.continues character = false) :
    number (digits ++ after) = (digits, after) := by
  have stops : ∀ character ∈ after.head?, character.isDigit = false ∧ character ≠ '.' := by
    simpa [TokenKind.continues] using apart
  have whole := run_of_apart valid.2 (fun character member => (stops character member).1)
  have none : fraction after = ([], after) := by
    unfold fraction
    split
    next => exact absurd rfl (stops '.' rfl).2
    next => rfl
  rw [number, whole, none, List.append_nil]

theorem number_of_apart_decimal {digits places after : List Char} (valid : Digits digits)
    (broken : Digits places)
    (apart : ∀ character ∈ after.head?, TokenKind.number.continues character = false) :
    number (digits ++ '.' :: places ++ after) = (digits ++ '.' :: places, after) := by
  have stops : ∀ character ∈ after.head?, character.isDigit = false := by
    intro character member
    simpa [TokenKind.continues] using (Bool.or_eq_false_iff.1 (apart character member)).1
  have point : ∀ character ∈ ('.' :: places ++ after).head?, character.isDigit = false := by
    rintro character ⟨⟩
    decide
  have whole := run_of_apart valid.2 point
  have tail := run_of_apart broken.2 stops
  have some : fraction ('.' :: places ++ after) = ('.' :: places, after) := by
    obtain ⟨nonempty, digit⟩ := broken
    cases places with
    | nil => contradiction
    | cons first rest =>
        rw [List.cons_append, List.cons_append, fraction, if_pos (digit first List.mem_cons_self),
          ← List.cons_append, tail]
  rw [number, List.append_assoc, whole, some]

theorem first?_of_spelled {kind : TokenKind} {piece after : List Char}
    (spelled : Spelled (some kind) piece)
    (apart : ∀ character ∈ after.head?, kind.continues character = false) :
    first? (piece ++ after) = some (⟨some kind, piece⟩, after) := by
  cases spelled with
  | whole valid =>
      have read := number_of_apart valid apart
      obtain ⟨nonempty, digit⟩ := valid
      cases piece with
      | nil => contradiction
      | cons first rest =>
          rw [List.cons_append, first?_digit (digit first List.mem_cons_self), ← List.cons_append,
            read]
  | @decimal digits places valid broken =>
      have read := number_of_apart_decimal valid broken apart
      obtain ⟨nonempty, digit⟩ := valid
      cases digits with
      | nil => contradiction
      | cons first rest =>
          simp only [List.cons_append] at read ⊢
          rw [first?_digit (digit first List.mem_cons_self), read]
  | @word first rest begins onward =>
      have start : isWordStart first := by simpa [isWordStart] using begins
      have within := isWordPart_of_mem_word start onward
      rw [continues_wordClass] at apart
      have read := run_of_apart within apart
      rw [List.cons_append, first?_word start, ← List.cons_append, read]
  | mark known =>
      cases known with
      | slash =>
          have alone : after.head? ≠ some '/' := by
            intro second
            exact absurd (apart '/' second) (by decide)
          simp [first?, isBlank, alone, isWordStart, TokenKind.mark?]
      | leftParen | rightParen | semicolon | equals | plus | minus | star => rfl

theorem split_blanks_append {blanks : List Char}
    (blank : ∀ character ∈ blanks, isBlank character) (rest : List Char) :
    ∃ lexemes, split (blanks ++ rest) = (lexemes ++ (split rest).1, (split rest).2) ∧
      ∀ line, tokens line (lexemes ++ (split rest).1) =
        tokens (line + newlines blanks) (split rest).1 := by
  induction blanks with
  | nil => exact ⟨[], rfl, fun _ => rfl⟩
  | cons character blanks ih =>
      obtain ⟨lexemes, cut, same⟩ := ih (fun other member => blank other (.tail _ member))
      have here := first?_blank (blank character List.mem_cons_self) (blanks ++ rest)
      refine ⟨⟨none, [character]⟩ :: lexemes, ?_, ?_⟩
      · rw [List.cons_append, split_of_first?_eq_some here, cut]
        rfl
      · intro line
        have lines : newlines (character :: blanks) = newlines [character] + newlines blanks :=
          newlines_append [character] blanks
        rw [List.cons_append, tokens, same, lines, ← Nat.add_assoc]
        rfl

theorem newlines_of_spelled {kind : TokenKind} {piece : List Char}
    (spelled : Spelled (some kind) piece) : newlines piece = 0 := by
  have part : ∀ {digits : List Char}, Digits digits → '\n' ∉ digits := by
    intro digits valid member
    exact absurd (valid.2 _ member) (by decide)
  apply List.count_eq_zero.2
  cases spelled with
  | whole valid => exact part valid
  | decimal valid broken => simp [part valid, part broken]
  | word begins onward =>
      intro member
      rcases List.mem_cons.1 member with rfl | later
      · exact absurd begins (by decide)
      · exact absurd (onward _ later) (by decide)
  | mark known => cases known <;> decide

end Lexeme

theorem Laid.split {line : Nat} {tokens : List Token} {text : List Char}
    (laid : Laid line tokens text) :
    (Lexeme.split text).2 = [] ∧ Lexeme.tokens line (Lexeme.split text).1 = tokens := by
  induction laid with
  | nil blank =>
      obtain ⟨lexemes, cut, same⟩ := Lexeme.split_blanks_append blank []
      rw [List.append_nil] at cut
      rw [cut, same, Lexeme.split_of_first?_eq_none rfl]
      exact ⟨rfl, rfl⟩
  | @cons line token tokens blanks after blank spelled placed apart _ ih =>
      -- The blanks become no token, and the lexeme behind them ends where the token does.
      obtain ⟨lexemes, cut, same⟩ :=
        Lexeme.split_blanks_append blank (token.text.toList ++ after)
      have here := Lexeme.first?_of_spelled spelled apart
      rw [cut, same, Lexeme.split_of_first?_eq_some here, Lexeme.tokens,
        Lexeme.newlines_of_spelled spelled, ← placed]
      simp [ih.1, ih.2]

theorem tokenize_of_laid {tokens : List Token} {source : String}
    (laid : Laid 1 tokens source.toList) :
    tokenize source =
      .ok (tokens ++ [⟨.endOfFile, "", 1 + newlines source.toList⟩]) := by
  obtain ⟨whole, same⟩ := laid.split
  exact tokenize_eq_ok_iff.2 ⟨whole, by rw [same]; rfl⟩

def Token.gap (line : Nat) (token : Token) : List Char :=
  if token.line ≤ line then [' '] else List.replicate (token.line - line) '\n'

def layout : Nat -> List Token -> List Char
  | _, [] => []
  | line, token :: rest => token.gap line ++ (token.text.toList ++ layout token.line rest)

theorem TokenKind.continues_of_isBlank (kind : TokenKind) {character : Char}
    (blank : Lexeme.isBlank character) : kind.continues character = false := by
  have known := Lexeme.isBlank_iff.1 blank
  simp only [List.mem_cons, List.not_mem_nil, or_false] at known
  rcases known with rfl | rfl | rfl | rfl <;> cases kind <;> decide

theorem Token.isBlank_of_mem_gap {line : Nat} {token : Token} {character : Char}
    (member : character ∈ token.gap line) : Lexeme.isBlank character := by
  unfold gap at member
  split at member
  · rw [List.mem_singleton.1 member]
    decide
  · rw [List.eq_of_mem_replicate member]
    decide

theorem Token.newlines_gap (line : Nat) (token : Token) :
    newlines (token.gap line) = token.line - line := by
  unfold gap
  split
  next above => simp [newlines, Nat.sub_eq_zero_of_le above]
  next => simp [newlines]

theorem Token.gap_ne_nil (line : Nat) (token : Token) : token.gap line ≠ [] := by
  unfold gap
  split
  · simp
  next below => simpa [Nat.sub_eq_zero_iff_le] using below

theorem isBlank_of_head?_layout {line : Nat} {tokens : List Token} :
    ∀ character ∈ (layout line tokens).head?, Lexeme.isBlank character := by
  cases tokens with
  | nil => simp [layout]
  | cons token rest =>
      intro character first
      rw [layout, List.head?_append_of_ne_nil _ (token.gap_ne_nil line)] at first
      exact Token.isBlank_of_mem_gap (List.mem_of_mem_head? first)

theorem laid_layout {line : Nat} {tokens : List Token} (spelled : ∀ token ∈ tokens, token.Spelled)
    (ordered : (line :: tokens.map Token.line).Pairwise (· ≤ ·)) :
    Laid line tokens (layout line tokens) := by
  induction tokens generalizing line with
  | nil => exact .nil (by simp [layout])
  | cons token rest ih =>
      rw [List.map_cons, List.pairwise_cons] at ordered
      refine .cons (fun _ => Token.isBlank_of_mem_gap) (spelled token List.mem_cons_self) ?_ ?_ ?_
      · have later := ordered.1 token.line List.mem_cons_self
        rw [token.newlines_gap]
        omega
      · intro character first
        exact token.kind.continues_of_isBlank (isBlank_of_head?_layout character first)
      · exact ih (fun other member => spelled other (.tail _ member)) ordered.2

theorem newlines_layout {line : Nat} {tokens : List Token}
    (spelled : ∀ token ∈ tokens, token.Spelled)
    (ordered : (line :: tokens.map Token.line).Pairwise (· ≤ ·)) :
    line + newlines (layout line tokens) = (tokens.getLast?.map Token.line).getD line := by
  induction tokens generalizing line with
  | nil => rfl
  | cons token rest ih =>
      rw [List.map_cons, List.pairwise_cons] at ordered
      have later := ordered.1 token.line List.mem_cons_self
      have onward := ih (fun other member => spelled other (.tail _ member)) ordered.2
      have here := Lexeme.newlines_of_spelled (spelled token List.mem_cons_self)
      have whole : line + newlines (layout line (token :: rest)) =
          token.line + newlines (layout token.line rest) := by
        simp only [layout, newlines_append, token.newlines_gap, here]
        omega
      rw [whole, onward, List.getLast?_cons]
      cases rest.getLast? <;> rfl

def Token.MayTouch (first second : Token) : Prop :=
  ∀ character ∈ second.text.toList.head?, first.kind.continues character = false

theorem laid_flatMap_text {line : Nat} {tokens : List Token}
    (spelled : ∀ token ∈ tokens, token.Spelled) (placed : ∀ token ∈ tokens, token.line = line)
    (touching : tokens.IsChain Token.MayTouch) :
    Laid line tokens (tokens.flatMap (fun token => token.text.toList)) := by
  induction tokens with
  | nil => exact .nil (by simp)
  | cons token rest ih =>
      rw [List.forall_mem_cons] at spelled placed
      have onward := ih spelled.2 placed.2 touching.tail
      rw [← placed.1] at onward
      rw [List.flatMap_cons, ← List.nil_append (token.text.toList ++ _)]
      refine .cons (by simp) spelled.1 (by simp [placed.1, newlines]) ?_ onward
      cases rest with
      | nil => simp
      | cons second more =>
          have nonempty := (spelled.2 second List.mem_cons_self).ne_nil
          rw [List.flatMap_cons, List.head?_append_of_ne_nil _ nonempty]
          exact (List.isChain_cons_cons.1 touching).1

end NumScript
