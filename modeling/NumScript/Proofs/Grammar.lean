import NumScript.Numeral
import NumScript.Program

set_option autoImplicit false

/-!
# Grammar

Which tokens make up an expression, a statement and a program, and which one. Nothing here says how
tokens are read: an operator of one rank takes a phrase of its own rank on the left and a tighter
one on the right, and everything else is a list of tokens in a fixed order.
-/

namespace NumScript.Grammar

inductive Rank where
  | operand
  | product
  | sum

inductive Sign : Rank -> TokenKind -> BinOp -> Prop where
  | plus : Sign .sum .plus .add
  | minus : Sign .sum .minus .sub
  | star : Sign .product .star .mul
  | slash : Sign .product .slash .div

inductive Phrase : Rank -> List Token -> Expr -> Prop where
  | number {token : Token} {value : Float} (kind : token.kind = .number)
      (known : Numeral.read? token.text = some value) :
      Phrase .operand [token] (.number value)
  | name {token : Token} (kind : token.kind = .identifier) :
      Phrase .operand [token] (.var token.text token.line)
  | parenthesized {opening closing : Token} {inside : List Token} {expression : Expr}
      (opens : opening.kind = .leftParen) (phrase : Phrase .sum inside expression)
      (closes : closing.kind = .rightParen) :
      Phrase .operand (opening :: (inside ++ [closing])) expression
  | operand {tokens : List Token} {expression : Expr} (phrase : Phrase .operand tokens expression) :
      Phrase .product tokens expression
  | times {before after : List Token} {operator : Token} {op : BinOp} {left right : Expr}
      (first : Phrase .product before left) (sign : Sign .product operator.kind op)
      (second : Phrase .operand after right) :
      Phrase .product (before ++ operator :: after) (.binary op operator left right)
  | product {tokens : List Token} {expression : Expr} (phrase : Phrase .product tokens expression) :
      Phrase .sum tokens expression
  | plus {before after : List Token} {operator : Token} {op : BinOp} {left right : Expr}
      (first : Phrase .sum before left) (sign : Sign .sum operator.kind op)
      (second : Phrase .product after right) :
      Phrase .sum (before ++ operator :: after) (.binary op operator left right)

inductive Target : List Token -> String -> Nat -> Prop where
  | name {token : Token} (kind : token.kind = .identifier) : Target [token] token.text token.line
  | parenthesized {opening closing : Token} {inside : List Token} {name : String} {line : Nat}
      (opens : opening.kind = .leftParen) (target : Target inside name line)
      (closes : closing.kind = .rightParen) :
      Target (opening :: (inside ++ [closing])) name line

inductive Statement : List Token -> Stmt -> Prop where
  | declaration {keyword name equals semicolon : Token} {tokens : List Token} {expression : Expr}
      (begins : keyword.kind = .declare) (called : name.kind = .identifier)
      (gives : equals.kind = .equals) (phrase : Phrase .sum tokens expression)
      (ends : semicolon.kind = .semicolon) :
      Statement (keyword :: name :: equals :: (tokens ++ [semicolon]))
        (.declaration name.text expression name.line)
  | print {keyword opening closing semicolon : Token} {tokens : List Token} {expression : Expr}
      (begins : keyword.kind = .print) (opens : opening.kind = .leftParen)
      (phrase : Phrase .sum tokens expression) (closes : closing.kind = .rightParen)
      (ends : semicolon.kind = .semicolon) :
      Statement (keyword :: opening :: (tokens ++ [closing, semicolon]))
        (.print expression keyword.line)
  | assignment {equals semicolon : Token} {targets tokens : List Token} {name : String} {line : Nat}
      {expression : Expr} (target : Target targets name line) (gives : equals.kind = .equals)
      (phrase : Phrase .sum tokens expression) (ends : semicolon.kind = .semicolon) :
      Statement (targets ++ equals :: (tokens ++ [semicolon])) (.assignment name expression line)
  | evaluation {first semicolon : Token} {rest : List Token} {expression : Expr}
      (phrase : Phrase .sum (first :: rest) expression) (ends : semicolon.kind = .semicolon) :
      Statement (first :: (rest ++ [semicolon])) (.evaluation expression first.line)

inductive Statements : List Token -> Program -> Prop where
  | nil : Statements [] []
  | cons {tokens rest : List Token} {statement : Stmt} {program : Program}
      (first : Statement tokens statement) (others : Statements rest program) :
      Statements (tokens ++ rest) (statement :: program)

theorem Sign.ofKind? {rank : Rank} {kind : TokenKind} {op : BinOp} (sign : Sign rank kind op) :
    BinOp.ofKind? kind = some op := by
  cases sign <;> rfl

theorem Sign.isProduct_eq_true {kind : TokenKind} {op : BinOp} (sign : Sign .product kind op) :
    op.isProduct = true := by
  cases sign <;> rfl

theorem Sign.isProduct_eq_false {kind : TokenKind} {op : BinOp} (sign : Sign .sum kind op) :
    op.isProduct = false := by
  cases sign <;> rfl

theorem sign_of_ofKind? {kind : TokenKind} {op : BinOp} (known : BinOp.ofKind? kind = some op) :
    Sign (if op.isProduct then .product else .sum) kind op := by
  cases kind <;> cases known <;> constructor

theorem Target.phrase {tokens : List Token} {name : String} {line : Nat}
    (target : Target tokens name line) : Phrase .operand tokens (.var name line) := by
  induction target with
  | name kind => exact .name kind
  | parenthesized opens _ closes ih => exact .parenthesized opens (.product (.operand ih)) closes

-- An operator leaves a node of its own, so only parentheses can surround a lone name.
theorem Phrase.target {rank : Rank} {tokens : List Token} {name : String} {line : Nat}
    (phrase : Phrase rank tokens (.var name line)) : Target tokens name line := by
  generalize same : Expr.var name line = expression at phrase
  induction phrase with
  | number | times | plus => cases same
  | name kind =>
      cases same
      exact .name kind
  | parenthesized opens _ closes ih => exact .parenthesized opens (ih same) closes
  | operand _ ih => exact ih same
  | product _ ih => exact ih same

end NumScript.Grammar
