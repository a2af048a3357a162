import NumScript.Execution
import NumScript.Proofs.Reading.Attempts

set_option autoImplicit false

namespace NumScript

def Token.mapLine (f : Nat -> Nat) (token : Token) : Token :=
  { token with line := f token.line }

def Expr.mapLines (f : Nat -> Nat) : Expr -> Expr
  | number value => number value
  | var name line => var name (f line)
  | binary op operator left right =>
      binary op (operator.mapLine f) (left.mapLines f) (right.mapLines f)

def Stmt.mapLines (f : Nat -> Nat) : Stmt -> Stmt
  | declaration name initializer line => declaration name (initializer.mapLines f) (f line)
  | assignment name value line => assignment name (value.mapLines f) (f line)
  | print expression line => print (expression.mapLines f) (f line)
  | evaluation expression line => evaluation (expression.mapLines f) (f line)

def SyntaxError.mapLine (f : Nat -> Nat) (error : SyntaxError) : SyntaxError :=
  { error with line := f error.line }

section

variable (f : Nat -> Nat)

def Pending.mapLines (pending : Pending) : Pending :=
  { pending with left := pending.left.mapLines f, operator := pending.operator.mapLine f }

def Level.mapLines (level : Level) : Level where
  sum := level.sum.map (Pending.mapLines f)
  product := level.product.map (Pending.mapLines f)

theorem Pending.finish_mapLines (pending : Option Pending) (right : Expr) :
    finish (pending.map (mapLines f)) (right.mapLines f) = (finish pending right).mapLines f := by
  cases pending <;> rfl

namespace Level

theorem factor_mapLines (level : Level) (operand : Expr) :
    (level.mapLines f).factor (operand.mapLines f) = (level.factor operand).mapLines f :=
  Pending.finish_mapLines f level.product operand

theorem close_mapLines (level : Level) (operand : Expr) :
    (level.mapLines f).close (operand.mapLines f) = (level.close operand).mapLines f := by
  rw [close, factor_mapLines]
  exact Pending.finish_mapLines f level.sum (level.factor operand)

theorem push_mapLines (level : Level) (operand : Expr) (op : BinOp) (operator : Token) :
    (level.mapLines f).push (operand.mapLines f) op (operator.mapLine f) =
      (level.push operand op operator).mapLines f := by
  simp only [push, factor_mapLines, close_mapLines]
  split <;> rfl

end Level

namespace PartialExpr

def mapLines : PartialExpr -> PartialExpr
  | wanting inner outer => wanting (inner.mapLines f) (outer.map (Level.mapLines f))
  | holding inner outer operand =>
      holding (inner.mapLines f) (outer.map (Level.mapLines f)) (operand.mapLines f)

def Step.mapLines : Step -> Step
  | next reading => next (reading.mapLines f)
  | whole expression => whole (expression.mapLines f)
  | unexpected => unexpected
  | invalidNumber => invalidNumber

theorem readOperand_mapLines (inner : Level) (outer : List Level) (token : Token) :
    readOperand (inner.mapLines f) (outer.map (Level.mapLines f)) (token.mapLine f) =
      (readOperand inner outer token).mapLines f := by
  simp only [readOperand, Token.mapLine]
  split <;> try rfl
  split <;> rfl

theorem readOperator_mapLines (inner : Level) (outer : List Level) (operand : Expr)
    (token : Token) :
    readOperator (inner.mapLines f) (outer.map (Level.mapLines f)) (operand.mapLines f)
        (token.mapLine f) =
      (readOperator inner outer operand token).mapLines f := by
  have kind : (token.mapLine f).kind = token.kind := rfl
  simp only [readOperator, kind, Level.push_mapLines, Level.close_mapLines]
  split
  · rfl
  · cases outer with
    | nil => rfl
    | cons level outer =>
        simp only [List.map_cons]
        split <;> rfl

theorem step_mapLines (reading : PartialExpr) (token : Token) :
    (reading.mapLines f).step (token.mapLine f) = (reading.step token).mapLines f := by
  cases reading with
  | wanting inner outer => exact readOperand_mapLines f inner outer token
  | holding inner outer operand => exact readOperator_mapLines f inner outer operand token

theorem missing?_mapLines (reading : PartialExpr) :
    (reading.mapLines f).missing? = reading.missing? := by
  rcases reading with ⟨inner, outer⟩ | ⟨inner, _ | _, operand⟩ <;> rfl

end PartialExpr

def Slot.mapLines : Slot -> Slot
  | initializer name => initializer (name.mapLine f)
  | argument line => argument (f line)
  | bare line => bare (f line)
  | assigned name line => assigned name (f line)

namespace PartialStmt

def mapLines : PartialStmt -> PartialStmt
  | start => start
  | declaring => declaring
  | named name => named (name.mapLine f)
  | printing line => printing (f line)
  | inside slot reading => inside (slot.mapLines f) (reading.mapLines f)
  | printed expression line => printed (expression.mapLines f) (f line)

def Step.mapLines : Step -> Step
  | next state => next (state.mapLines f)
  | done statement => done (statement.mapLines f)
  | unexpected => unexpected
  | invalid fault => invalid fault

theorem afterExpression_mapLines (slot : Slot) (expression : Expr) (token : Token) :
    afterExpression (slot.mapLines f) (expression.mapLines f) (token.mapLine f) =
      (afterExpression slot expression token).mapLines f := by
  have kind : (token.mapLine f).kind = token.kind := rfl
  cases slot <;> cases named : token.kind <;>
    simp only [afterExpression, Slot.mapLines, kind, named] <;>
    try rfl
  cases expression <;> rfl

theorem readInside_mapLines (slot : Slot) (reading : PartialExpr) (token : Token) :
    readInside (slot.mapLines f) (reading.mapLines f) (token.mapLine f) =
      (readInside slot reading token).mapLines f := by
  simp only [readInside, PartialExpr.step_mapLines]
  cases reading.step token <;> try rfl
  exact afterExpression_mapLines f slot _ token

theorem step_mapLines (state : PartialStmt) (token : Token) :
    (state.mapLines f).step (token.mapLine f) = (state.step token).mapLines f := by
  have kind : (token.mapLine f).kind = token.kind := rfl
  cases state with
  | start =>
      simp only [mapLines, step, kind]
      split
      next => rfl
      next => rfl
      next => exact readInside_mapLines f (.bare token.line) .empty token
  | inside slot reading => exact readInside_mapLines f slot reading token
  | declaring | named | printing | printed =>
      simp only [mapLines, step, kind]
      split <;> rfl

theorem missing_mapLines (state : PartialStmt) : (state.mapLines f).missing = state.missing := by
  cases state with
  | inside slot reading =>
      simp only [mapLines, missing, PartialExpr.missing?_mapLines]
      cases slot <;> rfl
  | start | declaring | named | printing | printed => rfl

end PartialStmt

namespace Attempt

def mapLines : Attempt -> Attempt
  | parsed statement unread => parsed (statement.mapLines f) (unread.map (Token.mapLine f))
  | refused fault blamed unread =>
      refused fault (blamed.mapLine f) (unread.map (Token.mapLine f))

theorem read_mapLines (last : Token) (state : PartialStmt) (tokens : List Token) :
    read (last.mapLine f) (state.mapLines f) (tokens.map (Token.mapLine f)) =
      (read last state tokens).mapLines f := by
  induction tokens generalizing state with
  | nil => simp only [List.map_nil, read, PartialStmt.missing_mapLines, mapLines]
  | cons token rest ih =>
      simp only [List.map_cons, read, PartialStmt.step_mapLines]
      cases state.step token with
      | next next => exact ih next
      | unexpected => simp only [PartialStmt.Step.mapLines, PartialStmt.missing_mapLines]; rfl
      | done | invalid => rfl

theorem resume_mapLine (tokens : List Token) :
    resume (tokens.map (Token.mapLine f)) = (resume tokens).map (Token.mapLine f) := by
  induction tokens with
  | nil => rfl
  | cons token rest ih =>
      have ahead : atStatement (rest.map (Token.mapLine f)) = atStatement rest := by
        cases rest <;> rfl
      simp only [List.map_cons, resume, ahead, Token.mapLine]
      split
      · rfl
      · exact ih

theorem remaining_mapLines (attempt : Attempt) :
    (attempt.mapLines f).remaining = attempt.remaining.map (Token.mapLine f) := by
  cases attempt with
  | parsed => rfl
  | refused fault blamed unread => exact resume_mapLine f unread

end Attempt

theorem attempts_mapLines (last : Token) (tokens : List Token) :
    attempts (last.mapLine f) (tokens.map (Token.mapLine f)) =
      (attempts last tokens).map (Attempt.mapLines f) := by
  fun_induction attempts last tokens with
  | case1 => exact attempts_nil _
  | case2 token rest attempt _ ih =>
      have read : Attempt.read (last.mapLine f) .start ((token :: rest).map (Token.mapLine f)) =
          attempt.mapLines f :=
        Attempt.read_mapLines f last .start (token :: rest)
      rw [List.map_cons] at read ⊢
      rw [attempts_cons, read, Attempt.remaining_mapLines, ih]
      rfl

theorem body_mapLine (tokens : List Token) :
    body (tokens.map (Token.mapLine f)) = (body tokens).map (Token.mapLine f) :=
  List.takeWhile_map ..

theorem closing_mapLine {tokens : List Token} (some : tokens ≠ []) :
    closing (tokens.map (Token.mapLine f)) = (closing tokens).mapLine f := by
  obtain ⟨last, final⟩ := Option.isSome_iff_exists.1 (List.getLast?_isSome.2 some)
  have ends : (fun token : Token => decide (token.kind = .endOfFile)) ∘ Token.mapLine f =
      fun token => decide (token.kind = .endOfFile) :=
    rfl
  rw [closing, closing, List.find?_map, ends, List.getLast?_map, final]
  cases tokens.find? (fun token => decide (token.kind = .endOfFile)) <;> rfl

theorem parse_mapLine (tokens : List Token) :
    parse (tokens.map (Token.mapLine f)) =
      match parse tokens with
      | .ok program => .ok (program.map (Stmt.mapLines f))
      | .error errors => .error (errors.map (SyntaxError.mapLine f)) := by
  by_cases empty : tokens = []
  · subst empty
    simp [parse, body, attempts_nil]
  · have reports : Attempt.error? ∘ Attempt.mapLines f =
        fun attempt => attempt.error?.map (SyntaxError.mapLine f) := by
      funext attempt
      cases attempt <;> rfl
    have statements : Attempt.statement? ∘ Attempt.mapLines f =
        fun attempt => attempt.statement?.map (Stmt.mapLines f) := by
      funext attempt
      cases attempt <;> rfl
    simp only [parse, closing_mapLine f empty, body_mapLine, attempts_mapLines, List.filterMap_map,
      reports, statements, ← List.map_filterMap]
    cases (attempts (closing tokens) (body tokens)).filterMap Attempt.error? <;> rfl

end

def LexError.mapLine (f : Nat -> Nat) (error : LexError) : LexError :=
  { error with line := f error.line }

def RuntimeError.mapLine (f : Nat -> Nat) : RuntimeError -> RuntimeError
  | alreadyDeclared name line => alreadyDeclared name (f line)
  | undeclared name line => undeclared name (f line)
  | divisionByZero line => divisionByZero (f line)
  | output cause line => output cause (f line)

def Failure.mapLines (f : Nat -> Nat) : Failure -> Failure
  | scan error => scan (error.mapLine f)
  | parse errors => parse (errors.map (SyntaxError.mapLine f))
  | runtime error => runtime (error.mapLine f)

end NumScript
