import NumScript.Binary64.Bits
import NumScript.Proofs.CorrectPrefix
import NumScript.Proofs.Printing
import NumScript.Proofs.WellFormedTokens

set_option autoImplicit false

namespace NumScript

open Grammar

def BinOp.symbol : BinOp -> String
  | add => "+"
  | sub => "-"
  | mul => "*"
  | div => "/"

inductive Expr.WellFormed (last : Nat) : Expr -> Prop where
  | number {value : Float} (isNumber : value.isNaN = false)
      (unsigned : Binary64.isNegative value = false) : WellFormed last (.number value)
  | var {name : String} {line : Nat} (identifier : IsIdentifier name) (first : 1 ≤ line)
      (within : line ≤ last) : WellFormed last (.var name line)
  | binary {op : BinOp} {operator : Token} {left right : Expr} (kind : operator.kind = op.kind)
      (text : operator.text = op.symbol) (first : 1 ≤ operator.line)
      (within : operator.line ≤ last) (before : left.WellFormed last)
      (after : right.WellFormed last) : WellFormed last (.binary op operator left right)

inductive Stmt.WellFormed (last : Nat) : Stmt -> Prop where
  | declaration {name : String} {initializer : Expr} {line : Nat} (identifier : IsIdentifier name)
      (formed : initializer.WellFormed last) (first : 1 ≤ line) (within : line ≤ last) :
      WellFormed last (.declaration name initializer line)
  | assignment {name : String} {value : Expr} {line : Nat} (identifier : IsIdentifier name)
      (formed : value.WellFormed last) (first : 1 ≤ line) (within : line ≤ last) :
      WellFormed last (.assignment name value line)
  | print {expression : Expr} {line : Nat} (formed : expression.WellFormed last)
      (first : 1 ≤ line) (within : line ≤ last) : WellFormed last (.print expression line)
  | evaluation {expression : Expr} {line : Nat} (formed : expression.WellFormed last)
      (first : 1 ≤ line) (within : line ≤ last) : WellFormed last (.evaluation expression line)

structure Program.WellFormed (last : Nat) (program : Program) : Prop where
  statements : ∀ statement ∈ program, statement.WellFormed last
  ordered : program.Pairwise (fun first second => first.line ≤ second.line)

theorem Decimal.read?_of_digits {text : List Char} (valid : Lexeme.Digits text) :
    read? text = some ⟨Nat.ofDigitChars 10 text 0, 0⟩ := by
  obtain ⟨nonempty, digits⟩ := valid
  have taken := List.takeWhile_eq_self_iff.2 digits
  have left := List.dropWhile_eq_nil_iff.2 digits
  simp [read?, taken, left, assemble?, readExponent?, nonempty]

theorem Decimal.read?_of_places {whole places : List Char} (valid : Lexeme.Digits whole)
    (broken : Lexeme.Digits places) :
    read? (whole ++ '.' :: places) =
      some ⟨Nat.ofDigitChars 10 (whole ++ places) 0, -places.length⟩ := by
  have point : Char.isDigit '.' = false := by decide
  have taken := List.takeWhile_eq_self_iff.2 broken.2
  have left := List.dropWhile_eq_nil_iff.2 broken.2
  simp [read?, List.takeWhile_append_of_pos valid.2, List.dropWhile_append_of_pos valid.2, point,
    taken, left, assemble?, readExponent?, valid.1]

section

variable {literal : String}

theorem Decimal.exists_read? (numeral : IsNumeral literal) :
    ∃ decimal, Decimal.read? literal.toList = some decimal := by
  rcases numeral with valid | ⟨whole, places, same, valid, broken⟩
  · exact ⟨_, read?_of_digits valid⟩
  · rw [same]
    exact ⟨_, read?_of_places valid broken⟩

theorem Numeral.unsign_of_numeral (numeral : IsNumeral literal) :
    unsign literal.toList = (false, literal.toList) := by
  have starts : ∃ first rest, literal.toList = first :: rest ∧ first.isDigit := by
    rcases numeral with ⟨nonempty, digits⟩ | ⟨whole, places, same, ⟨nonempty, digits⟩, -⟩
    · obtain ⟨first, rest, same⟩ := List.exists_cons_of_ne_nil nonempty
      exact ⟨first, rest, same, digits first (same ▸ List.mem_cons_self)⟩
    · obtain ⟨first, rest, rfl⟩ := List.exists_cons_of_ne_nil nonempty
      exact ⟨first, rest ++ '.' :: places, same, digits first List.mem_cons_self⟩
  obtain ⟨first, rest, same, digit⟩ := starts
  rw [same]
  unfold unsign
  split
  next minus =>
    cases minus
    exact absurd digit (by decide)
  next plus =>
    cases plus
    exact absurd digit (by decide)
  next => rfl

theorem Numeral.exists_read? (numeral : IsNumeral literal) :
    ∃ value, Numeral.read? literal = some value ∧ value.isNaN = false ∧
      Binary64.isNegative value = false := by
  obtain ⟨decimal, known⟩ := Decimal.exists_read? numeral
  have bound := decimal.code_le_infinity
  refine ⟨Binary64.ofCode false decimal.code, ?_, ?_, Binary64.isNegative_ofCode false bound⟩
  · simp [Numeral.read?, unsign_of_numeral numeral, known]
  · apply Binary64.isNaN_eq_false
    rwa [Binary64.code_ofCode false bound]

end

namespace Token

variable {token : Token}

theorem WellFormed.numeral (formed : token.WellFormed) (number : token.kind = .number) :
    IsNumeral token.text := by
  cases formed with
  | number _ literal => exact literal
  | identifier kind => simp [kind] at number
  | fixed spelling => simp [number, TokenKind.spelling?] at spelling

theorem WellFormed.isIdentifier (formed : token.WellFormed) (named : token.kind = .identifier) :
    IsIdentifier token.text := by
  cases formed with
  | identifier _ name => exact name
  | number kind => simp [kind] at named
  | fixed spelling => simp [named, TokenKind.spelling?] at spelling

theorem WellFormed.text_of_spelling? (formed : token.WellFormed) {text : String}
    (spelling : token.kind.spelling? = some text) : token.text = text := by
  cases formed with
  | fixed own => exact Option.some.inj (own.symm.trans spelling)
  | identifier kind | number kind => simp [kind, TokenKind.spelling?] at spelling

structure Placed (last : Nat) (token : Token) : Prop where
  formed : token.WellFormed
  first : 1 ≤ token.line
  within : token.line ≤ last

end Token

theorem placed_of_tokenize {source : String} {tokens : List Token} {ending : Token}
    (scanned : tokenize source = .ok (tokens ++ [ending])) :
    ∀ token ∈ tokens, token.Placed (1 + newlines source.toList) := by
  have formed := wellFormed_of_tokenize scanned
  have bounds := (lines_of_tokenize scanned).2
  rw [List.dropLast_concat] at formed
  intro token member
  obtain ⟨first, within⟩ := bounds token (List.mem_append_left _ member)
  exact ⟨formed token member, first, within⟩

namespace Attempt

theorem fault_ne_invalidNumber {last blamed : Token} {tokens unread : List Token}
    {fault : SyntaxFault} (refused : read last .start tokens = .refused fault blamed unread)
    (formed : ∀ token ∈ tokens, token.WellFormed) : fault ≠ .invalidNumber := by
  intro same
  have unexpected {state : PartialStmt} (missing : state.missing = .invalidNumber) : False := by
    have consumed := state.missing_consumed
    simp [missing, SyntaxFault.consumed] at consumed
  cases refusal_of_read refused with
  | ended => exact unexpected same
  | unexpected => exact unexpected same
  | @invalid before _ _ _ _ reads stepped =>
      rcases PartialStmt.invalid_of_step stepped with ⟨-, kind, unreadable⟩ | ⟨target, -⟩
      · have known := formed blamed (List.mem_append_right before List.mem_cons_self)
        obtain ⟨value, read, -⟩ := Numeral.exists_read? (known.numeral kind)
        simp [unreadable] at read
      · simp [target] at same

end Attempt

theorem SyntaxFault.eq_invalidNumber {fault : SyntaxFault}
    (message : fault.message = "Invalid number literal.") : fault = .invalidNumber := by
  cases fault <;> simp [SyntaxFault.message] at message ⊢

theorem message_ne_of_wellFormed {tokens : List Token}
    (formed : ∀ token ∈ body tokens, token.WellFormed) :
    ∀ error ∈ syntaxErrors tokens, error.message ≠ "Invalid number literal." := by
  intro error reported same
  obtain ⟨start, attempt, made, recorded⟩ := mem_syntaxErrors_iff.1 reported
  obtain ⟨-, rfl⟩ := read_of_mem_attemptsAt made
  cases ended : Attempt.read (closing tokens) .start ((body tokens).drop start) with
  | parsed => simp [ended, Attempt.error?] at recorded
  | refused fault blamed unread =>
      rw [ended] at recorded
      cases recorded
      refine Attempt.fault_ne_invalidNumber ended ?_ (SyntaxFault.eq_invalidNumber same)
      exact fun token member => formed token (List.mem_of_mem_drop member)

namespace Grammar

theorem Sign.symbol {rank : Rank} {kind : TokenKind} {op : BinOp} (sign : Sign rank kind op) :
    kind = op.kind ∧ kind.spelling? = some op.symbol := by
  cases sign <;> exact ⟨rfl, rfl⟩

variable {last : Nat} {tokens : List Token}

theorem Sign.wellFormed {rank : Rank} {operator : Token} {op : BinOp} {left right : Expr}
    (sign : Sign rank operator.kind op) (placed : operator.Placed last)
    (before : left.WellFormed last) (after : right.WellFormed last) :
    (Expr.binary op operator left right).WellFormed last :=
  .binary sign.symbol.1 (placed.formed.text_of_spelling? sign.symbol.2) placed.first placed.within
    before after

theorem Phrase.wellFormed {rank : Rank} {expression : Expr} (phrase : Phrase rank tokens expression)
    (placed : ∀ token ∈ tokens, token.Placed last) : expression.WellFormed last := by
  induction phrase with
  | @number token value kind known =>
      have numeral := (placed token List.mem_cons_self).formed.numeral kind
      obtain ⟨other, read, isNumber, unsigned⟩ := Numeral.exists_read? numeral
      cases known.symm.trans read
      exact .number isNumber unsigned
  | @name token kind =>
      have here := placed token List.mem_cons_self
      exact .var (here.formed.isIdentifier kind) here.first here.within
  | parenthesized _ _ _ ih =>
      rw [List.forall_mem_cons, List.forall_mem_append] at placed
      exact ih placed.2.1
  | operand _ ih | product _ ih => exact ih placed
  | times _ sign _ ihFirst ihSecond | plus _ sign _ ihFirst ihSecond =>
      rw [List.forall_mem_append, List.forall_mem_cons] at placed
      obtain ⟨before, here, after⟩ := placed
      exact sign.wellFormed here (ihFirst before) (ihSecond after)

theorem Statement.wellFormed {statement : Stmt} (sentence : Statement tokens statement)
    (placed : ∀ token ∈ tokens, token.Placed last) : statement.WellFormed last := by
  cases sentence with
  | declaration _ called _ phrase =>
      simp only [List.forall_mem_cons, List.forall_mem_append] at placed
      obtain ⟨-, name, -, value, -⟩ := placed
      exact .declaration (name.formed.isIdentifier called) (phrase.wellFormed value) name.first
        name.within
  | print _ _ phrase =>
      simp only [List.forall_mem_cons, List.forall_mem_append] at placed
      obtain ⟨keyword, -, value, -⟩ := placed
      exact .print (phrase.wellFormed value) keyword.first keyword.within
  | assignment target _ phrase =>
      simp only [List.forall_mem_cons, List.forall_mem_append] at placed
      obtain ⟨targets, -, value, -⟩ := placed
      cases target.phrase.wellFormed targets with
      | var identifier first within =>
          exact .assignment identifier (phrase.wellFormed value) first within
  | @evaluation first _ rest _ phrase =>
      have value : ∀ token ∈ first :: rest, token.Placed last := by
        intro token member
        exact placed token (List.mem_append_left [_] member)
      have here := value first List.mem_cons_self
      exact .evaluation (phrase.wellFormed value) here.first here.within

theorem Target.exists_line {name : String} {line : Nat} (target : Target tokens name line) :
    ∃ token ∈ tokens, token.line = line := by
  induction target with
  | @name token => exact ⟨token, List.mem_cons_self, rfl⟩
  | parenthesized _ _ _ ih =>
      obtain ⟨token, inside, same⟩ := ih
      exact ⟨token, by simp [inside], same⟩

theorem Statement.exists_line {statement : Stmt} (sentence : Statement tokens statement) :
    ∃ token ∈ tokens, token.line = statement.line := by
  cases sentence with
  | @declaration keyword name => exact ⟨name, by simp, rfl⟩
  | @print keyword => exact ⟨keyword, List.mem_cons_self, rfl⟩
  | assignment target =>
      obtain ⟨token, inside, same⟩ := target.exists_line
      exact ⟨token, List.mem_append_left _ inside, same⟩
  | @evaluation first => exact ⟨first, List.mem_cons_self, rfl⟩

theorem Statements.exists_line {program : Program} (sentences : Statements tokens program) :
    ∀ statement ∈ program, ∃ token ∈ tokens, token.line = statement.line := by
  induction sentences with
  | nil => simp
  | cons first _ ih =>
      rw [List.forall_mem_cons]
      constructor
      · obtain ⟨token, inside, same⟩ := first.exists_line
        exact ⟨token, List.mem_append_left _ inside, same⟩
      · intro statement member
        obtain ⟨token, inside, same⟩ := ih statement member
        exact ⟨token, List.mem_append_right _ inside, same⟩

theorem Statements.wellFormed {program : Program} (sentences : Statements tokens program)
    (placed : ∀ token ∈ tokens, token.Placed last)
    (ordered : tokens.Pairwise (fun first second => first.line ≤ second.line)) :
    program.WellFormed last := by
  induction sentences with
  | nil => exact ⟨by simp, .nil⟩
  | cons first others ih =>
      rw [List.forall_mem_append] at placed
      obtain ⟨-, orderedRest, across⟩ := List.pairwise_append.1 ordered
      have rest := ih placed.2 orderedRest
      refine ⟨List.forall_mem_cons.2 ⟨first.wellFormed placed.1, rest.statements⟩, ?_⟩
      refine rest.ordered.cons ?_
      -- Each statement stands on the line of one of its tokens, and the tokens are in order.
      intro later member
      obtain ⟨token, inside, same⟩ := first.exists_line
      obtain ⟨other, behind, sameLater⟩ := others.exists_line later member
      rw [← same, ← sameLater]
      exact across token inside other behind

end Grammar

theorem scanned_program_wellFormed {source : String} {tokens : List Token}
    (scanned : tokenize source = .ok tokens) :
    (∀ error ∈ syntaxErrors tokens, error.message ≠ "Invalid number literal.") ∧
      ∀ program, parse tokens = .ok program →
        program.WellFormed (1 + newlines source.toList) := by
  obtain ⟨-, rfl⟩ := tokenize_eq_ok_iff.1 scanned
  have inside := kind_ne_endOfFile_of_scanned source.toList
  have placed := placed_of_tokenize scanned
  constructor
  · apply message_ne_of_wellFormed
    rw [body_of_inside inside]
    exact fun token member => (placed token member).formed
  · intro program parsed
    have sentences := (parse_endOfFile_eq_ok_iff inside _).1 parsed
    have ordered := (List.pairwise_append.1 (lines_of_tokenize scanned).1).1
    exact sentences.wellFormed placed ordered

def spreadSource : String :=
  "declarar x\n= 1.50;\n(x) = x /\n2;"

def spreadTokens : List Token :=
  [⟨.declare, "declarar", 1⟩, ⟨.identifier, "x", 1⟩, ⟨.equals, "=", 2⟩, ⟨.number, "1.50", 2⟩,
    ⟨.semicolon, ";", 2⟩, ⟨.leftParen, "(", 3⟩, ⟨.identifier, "x", 3⟩, ⟨.rightParen, ")", 3⟩,
    ⟨.equals, "=", 3⟩, ⟨.identifier, "x", 3⟩, ⟨.slash, "/", 3⟩, ⟨.number, "2", 4⟩,
    ⟨.semicolon, ";", 4⟩, ⟨.endOfFile, "", 4⟩]

def spreadProgram : Program :=
  [.declaration "x" (.number 1.5) 1,
    .assignment "x" (.binary .div ⟨.slash, "/", 3⟩ (.var "x" 3) (.number 2)) 3]

theorem scanned_program_wellFormed_spread :
    tokenize spreadSource = .ok spreadTokens ∧ parse spreadTokens = .ok spreadProgram ∧
      spreadProgram.WellFormed 4 ∧
      ∀ error ∈ syntaxErrors spreadTokens, error.message ≠ "Invalid number literal." := by
  have scanned : tokenize spreadSource = .ok spreadTokens := by decide +kernel
  have parsed : parse spreadTokens = .ok spreadProgram := by decide +kernel
  obtain ⟨readable, formed⟩ := scanned_program_wellFormed scanned
  exact ⟨scanned, parsed, formed spreadProgram parsed, readable⟩

end NumScript
