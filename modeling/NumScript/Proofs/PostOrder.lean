import NumScript.Binary64.Bits
import NumScript.Proofs.NameCheck

set_option autoImplicit false

namespace NumScript

open Binary64

/-- The nodes of an expression in post-order, each with all that is below it. -/
def Expr.nodes : Expr -> List Expr
  | number value => [number value]
  | var name line => [var name line]
  | binary op operator left right =>
      left.nodes ++ right.nodes ++ [binary op operator left right]

/-- What is wrong with a node itself, not with an operand of it. -/
def Expr.fault? (symbols : Symbols) : Expr -> Option RuntimeError
  | number _ => none
  | var name line => if name ∈ symbols.names then none else some (.undeclared name line)
  | binary op operator left right =>
      match left.eval symbols, right.eval symbols with
      | .ok _, .ok value =>
          if op = .div ∧ code value = 0 then some (.divisionByZero operator.line) else none
      | _, _ => none

inductive Instruction where
  | push (value : Float)
  | load (name : String)
  | compute (op : BinOp)
  deriving DecidableEq

def Expr.instruction : Expr -> Instruction
  | number value => .push value
  | var name _ => .load name
  | binary op _ _ _ => .compute op

def BinOp.compute : BinOp -> Float -> Float -> Float
  | add, left, right => left + right
  | sub, left, right => left - right
  | mul, left, right => left * right
  | div, left, right => left / right

def Instruction.run (symbols : Symbols) (stack : List Float) : Instruction -> Option (List Float)
  | push value => some (value :: stack)
  | load name => (symbols.get? name).map (fun value => value :: stack)
  | compute op =>
      match stack with
      | right :: left :: below => some (op.compute left right :: below)
      | _ => none

def Instruction.runAll (symbols : Symbols) (stack : List Float) (instructions : List Instruction) :
    Option (List Float) :=
  instructions.foldlM (run symbols) stack

theorem BinOp.apply_eq (op : BinOp) (line : Nat) (left right : Float) :
    op.apply line left right =
      if op = .div ∧ code right = 0 then .error (.divisionByZero line)
      else .ok (op.compute left right) := by
  cases op with
  | add | sub | mul => rfl
  | div => simp only [apply, compute, beq_zero_iff, true_and]

def Expr.firstFault? (symbols : Symbols) (expression : Expr) : Option RuntimeError :=
  expression.nodes.findSome? (fault? symbols)

def Expr.onStack (symbols : Symbols) (stack : List Float) (expression : Expr) :
    Option (List Float) :=
  Instruction.runAll symbols stack (expression.nodes.map instruction)

section

variable (symbols : Symbols) (op : BinOp) (operator : Token) (left right : Expr)

theorem Expr.firstFault?_binary :
    (binary op operator left right).firstFault? symbols =
      (left.firstFault? symbols).or
        ((right.firstFault? symbols).or ((binary op operator left right).fault? symbols)) := by
  simp [firstFault?, nodes, List.findSome?_append, List.findSome?_singleton]

theorem Expr.onStack_binary (stack : List Float) :
    (binary op operator left right).onStack symbols stack =
      (left.onStack symbols stack).bind (fun one =>
        (right.onStack symbols one).bind (fun both =>
          Instruction.run symbols both (.compute op))) := by
  simp [onStack, Instruction.runAll, nodes, List.foldlM_append, instruction]

end

theorem Expr.eval_cases (symbols : Symbols) (expression : Expr) :
    (∃ error, expression.eval symbols = .error error ∧
      expression.firstFault? symbols = some error) ∨
    ∃ value, expression.eval symbols = .ok value ∧ expression.firstFault? symbols = none ∧
      ∀ stack, expression.onStack symbols stack = some (value :: stack) := by
  induction expression with
  | number value => exact .inr ⟨value, rfl, rfl, fun stack => rfl⟩
  | var name line =>
      cases found : symbols.get? name with
      | none =>
          left
          have unknown := (symbols.get?_eq_none_iff name).1 found
          refine ⟨.undeclared name line, ?_, ?_⟩
          · simp [eval, Symbols.lookup, found]
          · simp [firstFault?, nodes, fault?, unknown]
      | some value =>
          right
          have known := (symbols.get?_ne_none_iff name).1 (by simp [found])
          refine ⟨value, ?_, ?_, ?_⟩
          · simp [eval, Symbols.lookup, found]
          · simp [firstFault?, nodes, fault?, known]
          · simp [onStack, Instruction.runAll, nodes, instruction, Instruction.run, found]
  | binary op operator left right ihLeft ihRight =>
      rw [firstFault?_binary]
      rcases ihLeft with ⟨error, failed, fault⟩ | ⟨first, computed, clean, pushed⟩
      · exact .inl ⟨error, by rw [eval, failed]; rfl, by rw [fault, Option.some_or]⟩
      rw [clean, Option.none_or]
      rcases ihRight with ⟨error, failed, fault⟩ | ⟨second, computed', clean', pushed'⟩
      · exact .inl ⟨error, by rw [eval, computed, failed]; rfl, by rw [fault, Option.some_or]⟩
      rw [clean', Option.none_or]
      have applied : (binary op operator left right).eval symbols =
          op.apply operator.line first second := by
        rw [eval, computed, computed']
        rfl
      rw [applied, op.apply_eq, fault?, computed, computed']
      by_cases zero : op = .div ∧ code second = 0
      · exact .inl ⟨.divisionByZero operator.line, if_pos zero, if_pos zero⟩
      · refine .inr ⟨op.compute first second, if_neg zero, if_neg zero, ?_⟩
        intro stack
        simp only [onStack_binary, pushed, pushed', Option.bind_some, Instruction.run]

theorem Expr.eval_eq_error_iff {symbols : Symbols} {expression : Expr} {error : RuntimeError} :
    expression.eval symbols = .error error ↔ expression.firstFault? symbols = some error := by
  rcases expression.eval_cases symbols with ⟨other, failed, fault⟩ | ⟨value, computed, clean, -⟩
  · simp [failed, fault]
  · simp [computed, clean]

theorem Expr.eval_eq_ok_iff {symbols : Symbols} {expression : Expr} {value : Float} :
    expression.eval symbols = .ok value ↔
      expression.firstFault? symbols = none ∧ expression.onStack symbols [] = some [value] := by
  rcases expression.eval_cases symbols with ⟨error, failed, fault⟩ | ⟨other, computed, clean, left⟩
  · simp [failed, fault]
  · simp [computed, clean, left]

theorem evaluated_in_post_order (symbols : Symbols) (expression : Expr) :
    ((∃ error, expression.eval symbols = .error error) ↔
      ∃ node ∈ expression.nodes, ∃ error, node.fault? symbols = some error) ∧
    (∀ error, expression.eval symbols = .error error ↔
      ∃ before node after, expression.nodes = before ++ node :: after ∧
        node.fault? symbols = some error ∧ ∀ earlier ∈ before, earlier.fault? symbols = none) ∧
    (∀ value, expression.eval symbols = .ok value ↔
      (∀ node ∈ expression.nodes, node.fault? symbols = none) ∧
        Instruction.runAll symbols [] (expression.nodes.map Expr.instruction) = some [value]) ∧
    ∀ other : Symbols, (∀ name ∈ expression.names, symbols.get? name = other.get? name) →
      expression.eval symbols = expression.eval other := by
  refine ⟨?_, ?_, ?_, fun other agree => Expr.eval_congr agree⟩
  · simp only [Expr.eval_eq_error_iff, Expr.firstFault?]
    simp only [← Option.isSome_iff_exists, List.findSome?_isSome_iff]
  · intro error
    rw [Expr.eval_eq_error_iff, Expr.firstFault?, List.findSome?_eq_some_iff]
  · intro value
    rw [Expr.eval_eq_ok_iff, Expr.firstFault?, List.findSome?_eq_none_iff, Expr.onStack]

example : Expr.firstFault? .empty
    (.binary .div ⟨.slash, "/", 2⟩
      (.binary .add ⟨.plus, "+", 1⟩ (.number 1) (.var "x" 1)) (.number 0)) =
    some (.undeclared "x" 1) := rfl

end NumScript
