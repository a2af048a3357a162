import NumScript.Program
import NumScript.Symbols

set_option autoImplicit false

namespace NumScript

def BinOp.apply (op : BinOp) (line : Nat) (left right : Float) : Except RuntimeError Float :=
  match op with
  | add => .ok (left + right)
  | sub => .ok (left - right)
  | mul => .ok (left * right)
  | div => if right == 0 then .error (.divisionByZero line) else .ok (left / right)

theorem BinOp.apply_cases (op : BinOp) (line : Nat) (left right : Float) :
    (∃ value, op.apply line left right = .ok value) ∨
      op.apply line left right = .error (.divisionByZero line) := by
  cases op with
  | add | sub | mul => exact .inl ⟨_, rfl⟩
  | div =>
      simp only [apply]
      split
      · exact .inr rfl
      · exact .inl ⟨_, rfl⟩

def Expr.eval (symbols : Symbols) : Expr -> Except RuntimeError Float
  | number value => .ok value
  | var name line => symbols.lookup name line
  | binary op operator left right => do
      let leftValue ← left.eval symbols
      let rightValue ← right.eval symbols
      op.apply operator.line leftValue rightValue

end NumScript
