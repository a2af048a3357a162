import NumScript.PartialExpr

set_option autoImplicit false

namespace NumScript

/-- Where in a statement an expression stands, with what the statement keeps of earlier tokens. -/
inductive Slot where
  | initializer (name : Token)
  | argument (line : Nat)
  | bare (line : Nat)
  | assigned (name : String) (line : Nat)

inductive PartialStmt where
  | start
  | declaring
  | named (name : Token)
  | printing (line : Nat)
  | inside (slot : Slot) (reading : PartialExpr)
  | printed (expression : Expr) (line : Nat)

def Slot.missing : Slot -> SyntaxFault
  | initializer _ => .expectedDeclarationEnd
  | argument _ => .expectedClosing
  | bare _ => .expectedExpressionEnd
  | assigned _ _ => .expectedAssignmentEnd

namespace PartialStmt

def missing : PartialStmt -> SyntaxFault
  | start => .expectedExpression
  | declaring => .expectedName
  | named _ => .expectedEquals
  | printing _ => .expectedOpening
  | inside slot reading => reading.missing?.getD slot.missing
  | printed _ _ => .expectedPrintEnd

inductive Step where
  | next (state : PartialStmt)
  | done (statement : Stmt)
  | unexpected
  | invalid (fault : SyntaxFault)

def afterExpression (slot : Slot) (expression : Expr) (token : Token) : Step :=
  match slot, token.kind with
  | .initializer name, .semicolon => .done (.declaration name.text expression name.line)
  | .argument line, .rightParen => .next (.printed expression line)
  | .bare line, .semicolon => .done (.evaluation expression line)
  | .bare _, .equals =>
      -- The target is known by now, parentheses and all, and its own line is kept.
      match expression with
      | .var name line => .next (.inside (.assigned name line) .empty)
      | _ => .invalid .invalidTarget
  | .assigned name line, .semicolon => .done (.assignment name expression line)
  | _, _ => .unexpected

def readInside (slot : Slot) (reading : PartialExpr) (token : Token) : Step :=
  match reading.step token with
  | .next reading => .next (.inside slot reading)
  | .whole expression => afterExpression slot expression token
  | .unexpected => .unexpected
  | .invalidNumber => .invalid .invalidNumber

def step (state : PartialStmt) (token : Token) : Step :=
  match state with
  | start =>
      match token.kind with
      | .declare => .next .declaring
      | .print => .next (.printing token.line)
      | _ => readInside (.bare token.line) .empty token
  | declaring => if token.kind = .identifier then .next (.named token) else .unexpected
  | named name =>
      if token.kind = .equals then .next (.inside (.initializer name) .empty) else .unexpected
  | printing line =>
      if token.kind = .leftParen then .next (.inside (.argument line) .empty) else .unexpected
  | inside slot reading => readInside slot reading token
  | printed expression line =>
      if token.kind = .semicolon then .done (.print expression line) else .unexpected

end PartialStmt

end NumScript
