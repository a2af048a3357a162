import NumScript.Token

set_option autoImplicit false

namespace NumScript

inductive BinOp where
  | add
  | sub
  | mul
  | div
  deriving DecidableEq

def BinOp.ofKind? : TokenKind -> Option BinOp
  | .plus => some add
  | .minus => some sub
  | .star => some mul
  | .slash => some div
  | _ => none

def BinOp.isProduct : BinOp -> Bool
  | add | sub => false
  | mul | div => true

inductive Expr where
  | number (value : Float)
  | var (name : String) (line : Nat)
  -- The token is kept for the line of a failing division.
  | binary (op : BinOp) (operator : Token) (left right : Expr)
  deriving DecidableEq

inductive Stmt where
  | declaration (name : String) (initializer : Expr) (line : Nat)
  | assignment (name : String) (value : Expr) (line : Nat)
  | print (expression : Expr) (line : Nat)
  | evaluation (expression : Expr) (line : Nat)
  deriving DecidableEq

def Stmt.line : Stmt -> Nat
  | declaration _ _ line | assignment _ _ line | print _ line | evaluation _ line => line

abbrev Program := List Stmt

end NumScript
