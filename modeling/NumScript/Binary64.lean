set_option autoImplicit false

/-!
# Codes of binary64 values

A value without its sign is known by its code, the number that its low 63 bits spell. Codes are in
the order of their values, and every finite value is a whole number of units of `2 ^ -depth`
(`units`). Rounding is therefore a matter of natural numbers: the greatest code below, or the one
after it.
-/

namespace NumScript.Binary64

-- Powers are those of the core library, also where a later instance would be found.
attribute [local instance (2000)] instPowNat

def depth : Nat := 1074

def infinity : Nat := 2047 * 2 ^ (52 : Nat)

def undefined : Nat := infinity + 2 ^ (51 : Nat)

def signBit : Nat := 2 ^ (63 : Nat)

def code (value : Float) : Nat :=
  value.toBits.toNat % signBit

def isNegative (value : Float) : Bool :=
  signBit ≤ value.toBits.toNat

def ofCode (negative : Bool) (code : Nat) : Float :=
  .ofBits (.ofNat (if negative then signBit + code else code))

/-- A code in units of `2 ^ -depth`. Infinity stands for the first power of two out of range. -/
def units (code : Nat) : Nat :=
  if code < 2 ^ (52 : Nat) then code
  else (2 ^ (52 : Nat) + code % 2 ^ (52 : Nat)) * 2 ^ (code / 2 ^ (52 : Nat) - 1)

def floorCode (amount : Nat) : Nat :=
  -- Amounts under `2 ^ 53` are their own codes; greater ones lose their last bits.
  let shift := amount.log2 - 52
  shift * 2 ^ (52 : Nat) + amount / 2 ^ shift

/--
The code nearest to a quotient of units. Of two equally near codes the even one is taken, and what
is nearer to the first power of two out of range becomes infinity.
-/
def nearest (numerator denominator : Nat) : Nat :=
  let below := floorCode (numerator / denominator)
  -- The middle is doubled and scaled like the numerator, so nothing is divided.
  let middle := (units below + units (below + 1)) * denominator
  if 2 * numerator < middle ∨ (2 * numerator = middle ∧ below % 2 = 0) then min below infinity
  else min (below + 1) infinity

theorem nearest_le_infinity (numerator denominator : Nat) :
    nearest numerator denominator ≤ infinity := by
  unfold nearest
  dsimp only
  split <;> exact Nat.min_le_right _ _

theorem units_of_scale (shift significand : Nat) (upper : significand ≤ 2 ^ (53 : Nat))
    (lower : shift = 0 ∨ 2 ^ (52 : Nat) ≤ significand) :
    units (shift * 2 ^ (52 : Nat) + significand) = significand * 2 ^ shift := by
  unfold units
  split
  · have : shift = 0 := by omega
    simp [this]
  · by_cases carry : significand = 2 ^ 53
    · have exponent : (shift * 2 ^ 52 + significand) / 2 ^ 52 - 1 = shift + 1 := by omega
      have fraction : (shift * 2 ^ 52 + significand) % 2 ^ 52 = 0 := by omega
      rw [exponent, fraction, carry, Nat.pow_succ]
      omega
    · have exponent : (shift * 2 ^ 52 + significand) / 2 ^ 52 - 1 = shift := by omega
      have fraction : 2 ^ 52 + (shift * 2 ^ 52 + significand) % 2 ^ 52 = significand := by omega
      rw [exponent, fraction]

theorem units_lt_units_succ (code : Nat) : units code < units (code + 1) := by
  by_cases small : code < 2 ^ 53
  · have here := units_of_scale 0 code (by omega) (by omega)
    have next := units_of_scale 0 (code + 1) (by omega) (by omega)
    simp only [Nat.zero_mul, Nat.zero_add] at here next
    omega
  · let shift := code / 2 ^ 52 - 1
    let significand := code - shift * 2 ^ 52
    have split : code = shift * 2 ^ 52 + significand := by omega
    have here := units_of_scale shift significand (by omega) (by omega)
    have next := units_of_scale shift (significand + 1) (by omega) (by omega)
    have positive : 0 < 2 ^ shift := Nat.two_pow_pos shift
    rw [← split] at here
    rw [← Nat.add_assoc, ← split, Nat.add_mul] at next
    omega

theorem units_strictMono {first second : Nat} (less : first < second) :
    units first < units second := by
  induction second with
  | zero => omega
  | succ second ih =>
      have step := units_lt_units_succ second
      by_cases same : first = second
      · rw [same]; exact step
      · have := ih (by omega)
        omega

theorem floorCode_spread (amount : Nat) :
    units (floorCode amount) ≤ amount ∧ amount < units (floorCode amount + 1) := by
  unfold floorCode
  by_cases small : amount < 2 ^ 53
  · have shift : amount.log2 - 52 = 0 := by
      by_cases zero : amount = 0
      · simp [zero]
      · have := (Nat.log2_lt zero).2 small
        omega
    have here := units_of_scale 0 amount (by omega) (by omega)
    have next := units_of_scale 0 (amount + 1) (by omega) (by omega)
    simp only [Nat.zero_mul, Nat.zero_add] at here next
    simp [shift, here, next]
  · have nonzero : amount ≠ 0 := by omega
    have large : 53 ≤ amount.log2 := (Nat.le_log2 nonzero).2 (by omega)
    generalize known : amount.log2 - 52 = shift
    have log : amount.log2 = shift + 52 := by omega
    have lower : 2 ^ 52 * 2 ^ shift ≤ amount := by
      rw [← Nat.pow_add, Nat.add_comm, ← log]
      exact Nat.log2_self_le nonzero
    have upper : amount < 2 ^ 53 * 2 ^ shift := by
      rw [← Nat.pow_add, show 53 + shift = amount.log2 + 1 by omega]
      exact Nat.lt_log2_self
    have positive : 0 < 2 ^ shift := Nat.two_pow_pos shift
    have atLeast : 2 ^ 52 ≤ amount / 2 ^ shift := (Nat.le_div_iff_mul_le positive).2 lower
    have below : amount / 2 ^ shift < 2 ^ 53 := (Nat.div_lt_iff_lt_mul positive).2 upper
    dsimp only
    rw [Nat.add_assoc, units_of_scale shift _ (by omega) (by omega),
      units_of_scale shift _ (by omega) (by omega)]
    exact ⟨Nat.div_mul_le_self .., Nat.lt_mul_of_div_lt (by omega) positive⟩

@[simp] theorem floorCode_units (code : Nat) : floorCode (units code) = code := by
  have spread := floorCode_spread (units code)
  by_cases less : floorCode (units code) < code
  · by_cases next : floorCode (units code) + 1 = code
    · rw [next] at spread
      omega
    · have := units_strictMono (show floorCode (units code) + 1 < code by omega)
      omega
  · by_cases more : code < floorCode (units code)
    · have := units_strictMono more
      omega
    · omega

theorem nearest_units {code : Nat} (denominator : Nat) (positive : 0 < denominator)
    (within : code ≤ infinity) : nearest (units code * denominator) denominator = code := by
  have below : 2 * (units code * denominator) <
      (units code + units (code + 1)) * denominator := by
    have := Nat.mul_lt_mul_of_pos_right (units_lt_units_succ code) positive
    rw [Nat.add_mul]
    omega
  simp [nearest, Nat.mul_div_cancel _ positive, below, Nat.min_eq_left within]

end NumScript.Binary64
