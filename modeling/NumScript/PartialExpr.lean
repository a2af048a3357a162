import NumScript.Numeral
import NumScript.Program
import NumScript.SyntaxError

set_option autoImplicit false

namespace NumScript

structure Pending where
  left : Expr
  op : BinOp
  operator : Token

def Pending.finish (pending : Option Pending) (right : Expr) : Expr :=
  match pending with
  | none => right
  | some ⟨left, op, operator⟩ => .binary op operator left right

structure Level where
  sum : Option Pending := none
  product : Option Pending := none

namespace Level

def factor (level : Level) (operand : Expr) : Expr :=
  Pending.finish level.product operand

def close (level : Level) (operand : Expr) : Expr :=
  Pending.finish level.sum (level.factor operand)

def push (level : Level) (operand : Expr) (op : BinOp) (operator : Token) : Level :=
  -- A product leaves the sum around it waiting, a sum finishes whatever waits.
  if op.isProduct then { level with product := some ⟨level.factor operand, op, operator⟩ }
  else { sum := some ⟨level.close operand, op, operator⟩ }

end Level

inductive PartialExpr where
  | wanting (inner : Level) (outer : List Level)
  | holding (inner : Level) (outer : List Level) (operand : Expr)

namespace PartialExpr

def empty : PartialExpr :=
  .wanting {} []

def missing? : PartialExpr -> Option SyntaxFault
  | .wanting _ _ => some .expectedExpression
  | .holding _ [] _ => none
  | .holding _ (_ :: _) _ => some .expectedClosing

/-- What a token makes of a partial expression. A whole expression ends before the token. -/
inductive Step where
  | next (reading : PartialExpr)
  | whole (expression : Expr)
  | unexpected
  | invalidNumber

def readOperand (inner : Level) (outer : List Level) (token : Token) : Step :=
  match token.kind with
  | .number =>
      match Numeral.read? token.text with
      | some value => .next (.holding inner outer (.number value))
      | none => .invalidNumber
  | .identifier => .next (.holding inner outer (.var token.text token.line))
  | .leftParen => .next (.wanting {} (inner :: outer))
  | _ => .unexpected

def readOperator (inner : Level) (outer : List Level) (operand : Expr) (token : Token) : Step :=
  match BinOp.ofKind? token.kind with
  | some op => .next (.wanting (inner.push operand op token) outer)
  | none =>
      match outer with
      | [] => .whole (inner.close operand)
      | level :: outer =>
          if token.kind = .rightParen then .next (.holding level outer (inner.close operand))
          else .unexpected

def step (reading : PartialExpr) (token : Token) : Step :=
  match reading with
  | .wanting inner outer => readOperand inner outer token
  | .holding inner outer operand => readOperator inner outer operand token

end PartialExpr

end NumScript
