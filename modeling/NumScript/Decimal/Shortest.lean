import NumScript.Decimal

set_option autoImplicit false

/-!
# Shortest decimals

The decimal written for a binary64 code has the fewest digits that read back as that code and, among
those, is the nearest to the exact value; of two equally near ones it is the greater. Grids of
powers of ten are searched from coarse to fine. A unit of `2 ^ -depth` is `5 ^ depth` times
`10 ^ -depth`, so the finest grid holds every exact value and the search always ends.
-/

namespace NumScript.Decimal

attribute [local instance (2000)] instPowNat

open Binary64

def exact (code : Nat) : Nat :=
  units code * 5 ^ depth

def onGrid (step coefficient : Nat) : Decimal :=
  ⟨coefficient, (step : Int) - depth⟩

/-- The nearest point of a grid that reads back as the code: one of the value's two neighbours. -/
def gridPoint? (target step : Nat) : Option Decimal :=
  let value := exact target
  let below := value / 10 ^ step
  let lower := onGrid step below
  let upper := onGrid step (below + 1)
  if lower.code = target ∧ (2 * (value % 10 ^ step) < 10 ^ step ∨ upper.code ≠ target) then
    some lower
  else if upper.code = target then some upper
  else none

def coarsest (code : Nat) : Nat :=
  -- The second point of this grid is greater than the value.
  752 + 30103 * (units code).log2 / 100000

def grids (code : Nat) : List Nat :=
  (List.range (coarsest code + 1)).reverse

def shortest (code : Nat) : Decimal :=
  if code = 0 then ⟨0, 0⟩
  else ((grids code).findSome? (gridPoint? code)).getD (onGrid 0 (exact code))

theorem code_of_gridPoint? {target step : Nat} {point : Decimal}
    (found : gridPoint? target step = some point) : point.code = target := by
  unfold gridPoint? at found
  dsimp only at found
  split at found
  · rename_i lower
    simp only [Option.some.injEq] at found
    rw [← found]
    exact lower.1
  · split at found
    · rename_i upper
      simp only [Option.some.injEq] at found
      rw [← found]
      exact upper
    · simp at found

theorem le_exact {target : Nat} (positive : 0 < units target) : 2 ^ depth ≤ exact target :=
  calc
    2 ^ depth ≤ 5 ^ depth := Nat.pow_le_pow_left (by decide) depth
    _ ≤ exact target := Nat.le_mul_of_pos_left _ positive

theorem code_exact {target : Nat} (positive : 0 < units target) (number : target ≤ infinity) :
    (onGrid 0 (exact target)).code = target := by
  have nonzero : exact target ≠ 0 := by
    have := Nat.two_pow_pos depth
    have := le_exact positive
    omega
  have log : depth ≤ (exact target).log2 := (Nat.le_log2 nonzero).2 (le_exact positive)
  have scale : exact target * 10 ^ (0 : Nat) * 2 ^ depth = units target * 10 ^ depth := by
    rw [exact, Nat.pow_zero, Nat.mul_one, Nat.mul_assoc, ← Nat.mul_pow]
  have up : (((0 : Nat) : Int) - (depth : Int)).toNat = 0 := by omega
  have down : (-(((0 : Nat) : Int) - (depth : Int))).toNat = depth := by omega
  unfold code onGrid
  dsimp only
  rw [if_neg (by omega), if_neg (by omega), up, down, scale]
  exact nearest_units _ (Nat.pow_pos (by decide)) number

theorem code_shortest {target : Nat} (number : target ≤ infinity) :
    (shortest target).code = target := by
  unfold shortest
  split
  · rename_i zero
    simp [code, zero]
  · rename_i nonzero
    have positive : 0 < units target := by
      have := units_strictMono (Nat.pos_of_ne_zero nonzero)
      omega
    cases found : (grids target).findSome? (gridPoint? target) with
    | none => exact code_exact positive number
    | some point =>
        obtain ⟨step, member, here⟩ := List.exists_of_findSome?_eq_some found
        exact code_of_gridPoint? here

end NumScript.Decimal
