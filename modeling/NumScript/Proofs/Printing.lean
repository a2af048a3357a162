import NumScript.Proofs.Layout
import NumScript.Proofs.Reading.Sources

set_option autoImplicit false

namespace NumScript

open Grammar

def TokenKind.onFirstLine (kind : TokenKind) : Token :=
  ⟨kind, kind.spelling?.getD "", 1⟩

def BinOp.kind : BinOp -> TokenKind
  | add => .plus
  | sub => .minus
  | mul => .star
  | div => .slash

def BinOp.rank : BinOp -> Rank
  | add | sub => .sum
  | mul | div => .product

def Expr.rank : Expr -> Rank
  | number _ | var _ _ => .operand
  | binary op _ _ _ => op.rank

def Grammar.Rank.precedence : Rank -> Nat
  | sum => 0
  | product => 1
  | operand => 2

def Grammar.Rank.tighter : Rank -> Rank
  | sum => product
  | product | operand => operand

def parenthesizeIf (needed : Bool) (tokens : List Token) : List Token :=
  if needed then
    TokenKind.leftParen.onFirstLine :: (tokens ++ [TokenKind.rightParen.onFirstLine])
  else tokens

def IsName (name : String) : Prop :=
  Lexeme.Spelled (some .identifier) name.toList

structure Token.Plain (token : Token) : Prop where
  spelled : token.Spelled
  line : token.line = 1

theorem TokenKind.plain_onFirstLine {kind : TokenKind} {text : String}
    (fixed : kind.spelling? = some text) : kind.onFirstLine.Plain := by
  refine ⟨?_, rfl⟩
  rw [Token.Spelled, onFirstLine, fixed]
  exact spelled_of_first?_whole (first?_of_spelling? fixed)

theorem plain_parenthesizeIf {needed : Bool} {tokens : List Token}
    (plain : ∀ token ∈ tokens, token.Plain) :
    ∀ token ∈ parenthesizeIf needed tokens, token.Plain := by
  have opens : TokenKind.leftParen.onFirstLine.Plain := TokenKind.plain_onFirstLine rfl
  have closes : TokenKind.rightParen.onFirstLine.Plain := TokenKind.plain_onFirstLine rfl
  cases needed with
  | false => exact plain
  | true =>
      rw [parenthesizeIf, if_pos rfl, List.forall_mem_cons, List.forall_mem_append]
      exact ⟨opens, plain, by simpa using closes⟩

theorem Grammar.Phrase.ne_nil {rank : Rank} {tokens : List Token} {expression : Expr}
    (phrase : Phrase rank tokens expression) : tokens ≠ [] := by
  induction phrase with
  | number | name | parenthesized | times | plus => simp
  | operand _ ih | product _ ih => exact ih

theorem Grammar.Phrase.loosen {tight loose : Rank} {tokens : List Token} {expression : Expr}
    (phrase : Phrase tight tokens expression) (weaker : loose.precedence ≤ tight.precedence) :
    Phrase loose tokens expression := by
  cases tight with
  | operand =>
      cases loose with
      | operand => exact phrase
      | product => exact .operand phrase
      | sum => exact .product (.operand phrase)
  | product =>
      cases loose with
      | operand => simp [Rank.precedence] at weaker
      | product => exact phrase
      | sum => exact .product phrase
  | sum =>
      cases loose with
      | operand | product => simp [Rank.precedence] at weaker
      | sum => exact phrase

theorem Grammar.Phrase.parenthesizeIf {rank loose : Rank} {tokens : List Token} {expression : Expr}
    {needed : Bool} (phrase : Phrase rank tokens expression)
    (enough : needed = false → loose.precedence ≤ rank.precedence) :
    Phrase loose (parenthesizeIf needed tokens) expression := by
  cases needed with
  | false => exact phrase.loosen (enough rfl)
  | true =>
      have opens : TokenKind.leftParen.onFirstLine.kind = .leftParen := rfl
      have closes : TokenKind.rightParen.onFirstLine.kind = .rightParen := rfl
      refine (Phrase.parenthesized opens (phrase.loosen (Nat.zero_le _)) closes).loosen ?_
      cases loose <;> decide

theorem Grammar.Phrase.binary {op : BinOp} {before after : List Token} {left right : Expr}
    (first : Phrase op.rank before left) (second : Phrase op.rank.tighter after right) :
    Phrase op.rank (before ++ op.kind.onFirstLine :: after)
      (.binary op op.kind.onFirstLine left right) := by
  cases op with
  | add => exact .plus first .plus second
  | sub => exact .plus first .minus second
  | mul => exact .times first .star second
  | div => exact .times first .slash second

/-- How an expression can be written on the first line: its numbers come with a literal each. -/
inductive Expr.Wording : Expr -> Type where
  | number {value : Float} (literal : String)
      (spelled : Lexeme.Spelled (some .number) literal.toList)
      (known : Numeral.read? literal = some value) : Wording (.number value)
  | var {name : String} (identifier : IsName name) : Wording (.var name 1)
  | binary {left right : Expr} (op : BinOp) (first : Wording left) (second : Wording right) :
      Wording (.binary op op.kind.onFirstLine left right)

inductive Stmt.Wording : Stmt -> Type where
  | declaration {name : String} {expression : Expr} (identifier : IsName name)
      (initializer : expression.Wording) : Wording (.declaration name expression 1)
  | assignment {name : String} {expression : Expr} (identifier : IsName name)
      (value : expression.Wording) : Wording (.assignment name expression 1)
  | print {expression : Expr} (value : expression.Wording) : Wording (.print expression 1)
  | evaluation {expression : Expr} (value : expression.Wording) : Wording (.evaluation expression 1)

inductive Program.Wording : Program -> Type where
  | nil : Wording []
  | cons {statement : Stmt} {rest : Program} (first : statement.Wording) (others : Wording rest) :
      Wording (statement :: rest)

def Expr.Wording.tokens {expression : Expr} : expression.Wording -> List Token
  | number literal _ _ => [⟨.number, literal, 1⟩]
  | @var name _ => [⟨.identifier, name, 1⟩]
  | @binary left right op first second =>
      parenthesizeIf (left.rank.precedence < op.rank.precedence) first.tokens ++
        op.kind.onFirstLine ::
          parenthesizeIf (right.rank.precedence ≤ op.rank.precedence) second.tokens

def Stmt.Wording.tokens {statement : Stmt} : statement.Wording -> List Token
  | @declaration name _ _ initializer =>
      TokenKind.declare.onFirstLine :: ⟨.identifier, name, 1⟩ :: TokenKind.equals.onFirstLine ::
        (initializer.tokens ++ [TokenKind.semicolon.onFirstLine])
  | @assignment name _ _ value =>
      [⟨.identifier, name, 1⟩] ++ TokenKind.equals.onFirstLine ::
        (value.tokens ++ [TokenKind.semicolon.onFirstLine])
  | print value =>
      TokenKind.print.onFirstLine :: TokenKind.leftParen.onFirstLine ::
        (value.tokens ++ [TokenKind.rightParen.onFirstLine, TokenKind.semicolon.onFirstLine])
  | evaluation value => value.tokens ++ [TokenKind.semicolon.onFirstLine]

def Program.Wording.tokens {program : Program} : Program.Wording program -> List Token
  | nil => []
  | cons first others => first.tokens ++ others.tokens

def Program.Wording.source {program : Program} (wording : Program.Wording program) : String :=
  String.ofList (layout 1 wording.tokens)

theorem BinOp.plain_kind (op : BinOp) : op.kind.onFirstLine.Plain := by
  cases op <;> exact TokenKind.plain_onFirstLine rfl

theorem Expr.Wording.plain {expression : Expr} (wording : expression.Wording) :
    ∀ token ∈ wording.tokens, token.Plain := by
  induction wording with
  | number literal spelled =>
      intro token member
      rw [List.mem_singleton.1 member]
      exact ⟨spelled, rfl⟩
  | var identifier =>
      intro token member
      rw [List.mem_singleton.1 member]
      exact ⟨identifier, rfl⟩
  | binary op first second before after =>
      intro token member
      rcases List.mem_append.1 member with earlier | later
      · exact plain_parenthesizeIf before token earlier
      · rcases List.mem_cons.1 later with rfl | later
        · exact op.plain_kind
        · exact plain_parenthesizeIf after token later

theorem Stmt.Wording.plain {statement : Stmt} (wording : statement.Wording) :
    ∀ token ∈ wording.tokens, token.Plain := by
  have fixed : ∀ {kind : TokenKind} {text : String}, kind.spelling? = some text →
      kind.onFirstLine.Plain := TokenKind.plain_onFirstLine
  cases wording with
  | declaration identifier initializer =>
      simp only [tokens, List.forall_mem_cons, List.forall_mem_append]
      exact ⟨fixed rfl, ⟨identifier, rfl⟩, fixed rfl, initializer.plain, fixed rfl, by simp⟩
  | assignment identifier value =>
      simp only [tokens, List.forall_mem_cons, List.forall_mem_append]
      exact ⟨⟨⟨identifier, rfl⟩, by simp⟩, fixed rfl, value.plain, fixed rfl, by simp⟩
  | print value =>
      simp only [tokens, List.forall_mem_cons, List.forall_mem_append]
      exact ⟨fixed rfl, fixed rfl, value.plain, fixed rfl, fixed rfl, by simp⟩
  | evaluation value =>
      simp only [tokens, List.forall_mem_cons, List.forall_mem_append]
      exact ⟨value.plain, fixed rfl, by simp⟩

theorem Program.Wording.plain {program : Program} (wording : Program.Wording program) :
    ∀ token ∈ wording.tokens, token.Plain := by
  induction wording with
  | nil => simp [tokens]
  | cons first _ ih => exact List.forall_mem_append.2 ⟨first.plain, ih⟩

theorem Expr.Wording.phrase {expression : Expr} (wording : expression.Wording) :
    Phrase expression.rank wording.tokens expression := by
  induction wording with
  | number literal spelled known => exact .number rfl known
  | var identifier => exact .name rfl
  | binary op first second before after =>
      have next : op.rank.tighter.precedence = op.rank.precedence + 1 := by
        cases op <;> rfl
      -- Parentheses make an operand of any phrase; without them its own rank is tight enough.
      refine .binary (before.parenthesizeIf ?_) (after.parenthesizeIf ?_)
      · simp
      · simp [next]

theorem Grammar.Statement.evaluation_of_phrase {tokens : List Token} {expression : Expr}
    {semicolon : Token} {line : Nat} (phrase : Phrase .sum tokens expression)
    (ends : semicolon.kind = .semicolon) (placed : ∀ token ∈ tokens, token.line = line) :
    Statement (tokens ++ [semicolon]) (.evaluation expression line) := by
  cases tokens with
  | nil => exact absurd rfl phrase.ne_nil
  | cons first rest =>
      rw [← placed first List.mem_cons_self]
      exact .evaluation phrase ends

theorem Stmt.Wording.sentence {statement : Stmt} (wording : statement.Wording) :
    Statement wording.tokens statement := by
  have whole : ∀ {expression : Expr} (value : expression.Wording),
      Phrase .sum value.tokens expression :=
    fun value => value.phrase.loosen (Nat.zero_le _)
  cases wording with
  | @declaration name expression identifier initializer =>
      have called : (Token.mk .identifier name 1).kind = .identifier := rfl
      exact .declaration rfl called rfl (whole initializer) rfl
  | @assignment name expression identifier value =>
      have target : Target [⟨.identifier, name, 1⟩] name 1 := .name rfl
      exact .assignment target rfl (whole value) rfl
  | print value =>
      have begins : TokenKind.print.onFirstLine.kind = .print := rfl
      exact .print begins rfl (whole value) rfl rfl
  | evaluation value =>
      have placed : ∀ token ∈ value.tokens, token.line = 1 :=
        fun token member => (value.plain token member).line
      exact .evaluation_of_phrase (whole value) rfl placed

theorem Program.Wording.sentences {program : Program} (wording : Program.Wording program) :
    Statements wording.tokens program := by
  induction wording with
  | nil => exact .nil
  | cons first _ ih => exact .cons first.sentence ih

theorem programOfSource_of_laid {program : Program} (wording : Program.Wording program)
    {source : String} (laid : Laid 1 wording.tokens source.toList) :
    programOfSource source = .ok program := by
  refine programOfSource_eq_ok_iff.2 ⟨wording.tokens, tokenize_of_laid laid, ?_, wording.sentences⟩
  intro token member
  exact (wording.plain token member).spelled.kind_ne_endOfFile

theorem Program.Wording.laid_source {program : Program} (wording : Program.Wording program) :
    Laid 1 wording.tokens wording.source.toList ∧ newlines wording.source.toList = 0 := by
  have spelled : ∀ token ∈ wording.tokens, token.Spelled :=
    fun token member => (wording.plain token member).spelled
  have lines : ∀ line ∈ 1 :: wording.tokens.map Token.line, line = 1 := by
    simpa using fun token member => (wording.plain token member).line
  have ordered : (1 :: wording.tokens.map Token.line).Pairwise (· ≤ ·) := by
    rw [List.eq_replicate_of_mem lines]
    exact List.pairwise_replicate_of_refl
  have last : (wording.tokens.getLast?.map Token.line).getD 1 = 1 := by
    cases final : wording.tokens.getLast? with
    | none => rfl
    | some token => exact (wording.plain token (List.mem_of_getLast? final)).line
  have ends := newlines_layout spelled ordered
  rw [source, String.toList_ofList]
  exact ⟨laid_layout spelled ordered, by omega⟩

theorem printed_program_reads_back {program : Program} (wording : Program.Wording program) :
    newlines wording.source.toList = 0 ∧ programOfSource wording.source = .ok program ∧
      ∀ source, Laid 1 wording.tokens source.toList → programOfSource source = .ok program := by
  obtain ⟨laid, line⟩ := wording.laid_source
  exact ⟨line, programOfSource_of_laid wording laid, fun _ => programOfSource_of_laid wording⟩

def nestedGroups : Program :=
  [.print (.binary .mul ⟨.star, "*", 1⟩
    (.binary .sub ⟨.minus, "-", 1⟩ (.number 2)
      (.binary .sub ⟨.minus, "-", 1⟩ (.number 1.5) (.var "x" 1)))
    (.var "x" 1)) 1]

def nestedGroupsWording : Program.Wording nestedGroups :=
  have name : IsName "x" := spelled_of_first?_whole (by decide)
  .cons
    (.print (.binary .mul
      (.binary .sub (.number "2" (spelled_of_first?_whole (by decide)) (by decide +kernel))
        (.binary .sub
          (.number "1.50" (spelled_of_first?_whole (by decide)) (by decide +kernel))
          (.var name)))
      (.var name)))
    .nil

theorem printed_program_reads_back_nested_groups :
    nestedGroupsWording.source = " imprimir ( ( 2 - ( 1.50 - x ) ) * x ) ;" ∧
      programOfSource " imprimir ( ( 2 - ( 1.50 - x ) ) * x ) ;" = .ok nestedGroups := by
  have same : nestedGroupsWording.source = " imprimir ( ( 2 - ( 1.50 - x ) ) * x ) ;" := by
    decide +kernel
  have read := (printed_program_reads_back nestedGroupsWording).2.1
  rw [same] at read
  exact ⟨same, read⟩

end NumScript
