import Mathlib
import NumScript.Binary64

set_option autoImplicit false

namespace NumScript.Binary64

open Float.Model
open Float.Model.UnpackedFloat (Sign packComponents)

abbrev signBits (bits : BitVec 64) : BitVec 1 :=
  @UnpackedFloat.unpackSign Format.binary64 bits

abbrev exponentBits (bits : BitVec 64) : BitVec 11 :=
  @UnpackedFloat.unpackExponent Format.binary64 bits

abbrev mantissaBits (bits : BitVec 64) : BitVec 52 :=
  @UnpackedFloat.unpackMantissa Format.binary64 bits

theorem toNat_signBits (bits : BitVec 64) : (signBits bits).toNat = bits.toNat / 2 ^ 63 := by
  have := bits.isLt
  simp [signBits, UnpackedFloat.unpackSign, Nat.shiftRight_eq_div_pow]
  omega

theorem toNat_exponentBits (bits : BitVec 64) :
    (exponentBits bits).toNat = bits.toNat / 2 ^ 52 % 2 ^ 11 := by
  simp [exponentBits, UnpackedFloat.unpackExponent, Nat.shiftRight_eq_div_pow]

theorem toNat_mantissaBits (bits : BitVec 64) :
    (mantissaBits bits).toNat = bits.toNat % 2 ^ 52 := by
  simp [mantissaBits, UnpackedFloat.unpackMantissa, Nat.shiftRight_eq_div_pow]

theorem toBitVec_ofBitVec (sign : BitVec 1) : (Sign.ofBitVec sign).toBitVec = sign := by
  revert sign
  decide

theorem toNat_packComponents (sign : Sign) (exponent : BitVec 11) (mantissa : BitVec 52) :
    (packComponents Format.binary64 sign exponent mantissa).toNat =
      sign.toBitVec.toNat * 2 ^ 63 + exponent.toNat * 2 ^ 52 + mantissa.toNat := by
  have mantissaLess := mantissa.isLt
  have exponentLess := exponent.isLt
  unfold packComponents
  erw [BitVec.toNat_append, ← Nat.shiftLeft_add_eq_or_of_lt (by exact mantissaLess),
    BitVec.toNat_append, ← Nat.shiftLeft_add_eq_or_of_lt (by exact exponentLess)]
  simp only [Nat.shiftLeft_eq]
  omega

theorem packComponents_eq (bits : BitVec 64) (exponent : BitVec 11) (mantissa : BitVec 52)
    (sameExponent : exponent.toNat = bits.toNat / 2 ^ 52 % 2 ^ 11)
    (sameMantissa : mantissa.toNat = bits.toNat % 2 ^ 52) :
    packComponents Format.binary64 (Sign.ofBitVec (signBits bits)) exponent mantissa = bits := by
  have := bits.isLt
  apply BitVec.eq_of_toNat_eq
  rw [toNat_packComponents, toBitVec_ofBitVec, toNat_signBits]
  omega

theorem pack_finite (sign : Sign) (mantissa biased : Nat) (exponent : Int) (positive : 0 < mantissa)
    (shift : exponent = (biased : Int) - 1075) (within : biased < 2047) :
    UnpackedFloat.pack Format.binary64 (.finite sign mantissa exponent positive) =
      packComponents Format.binary64 sign
        (if mantissa.log2 = 52 then BitVec.ofNat 11 biased else 0) (BitVec.ofNat 52 mantissa) := by
  have same : (exponent + (Format.binary64.exponentBias : Int) +
      (Format.binary64.mantissaBitsWithoutImplicit : Int)).toNat = biased := by
    simp [Format.exponentBias]
    omega
  simp only [UnpackedFloat.pack, same]
  rw [if_neg (by simp; omega)]
  by_cases full : mantissa.log2 = 52
  · rw [if_pos (by simp [full, Format.mantissaBits]), if_pos full]
  · rw [if_neg (by simp [Format.mantissaBits]; omega), if_neg full]
    rfl

theorem toNat_fullMantissa (bits : BitVec 64) :
    (1#1 ++ mantissaBits bits).toNat = 2 ^ 52 + bits.toNat % 2 ^ 52 := by
  rw [← toNat_mantissaBits]
  erw [BitVec.toNat_append, ← Nat.shiftLeft_add_eq_or_of_lt (mantissaBits bits).isLt]
  rfl

theorem pack_unpack (bits : BitVec 64) (number : bits.toNat % 2 ^ 63 ≤ 2047 * 2 ^ 52) :
    UnpackedFloat.pack Format.binary64 (UnpackedFloat.unpack Format.binary64 bits) = bits := by
  have exponent : (@UnpackedFloat.unpackExponent Format.binary64 bits).toNat = _ :=
    toNat_exponentBits bits
  have mantissa : (@UnpackedFloat.unpackMantissa Format.binary64 bits).toNat = _ :=
    toNat_mantissaBits bits
  unfold UnpackedFloat.unpack
  dsimp only
  split
  · rename_i top
    rw [top] at exponent
    change 2047 = _ at exponent
    split
    · rename_i zero
      rw [zero] at mantissa
      exact packComponents_eq bits _ _ exponent mantissa
    · rename_i nonzero
      refine absurd (BitVec.eq_of_toNat_eq ?_) nonzero
      rw [mantissa]
      change _ = 0
      omega
  · rename_i finite
    have within : bits.toNat / 2 ^ 52 % 2 ^ 11 ≠ 2047 := by
      intro same
      exact finite (BitVec.eq_of_toNat_eq (exponent.trans same))
    split
    · rename_i least
      rw [least] at exponent
      change 0 = _ at exponent
      split
      · rename_i zero
        rw [zero] at mantissa
        exact packComponents_eq bits _ _ exponent mantissa
      · rename_i nonzero
        have positive : bits.toNat % 2 ^ 52 ≠ 0 := by
          intro same
          exact nonzero (BitVec.eq_of_toNat_eq (mantissa.trans same))
        rw [pack_finite _ _ 1 _ _ (by rw [least]; rfl) (by omega)]
        apply packComponents_eq
        · have notFull : ¬ (bits.toNat % 2 ^ 52).log2 = 52 := by
            have := (Nat.log2_lt positive).2 (show bits.toNat % 2 ^ 52 < 2 ^ 52 by omega)
            omega
          rw [mantissa, if_neg notFull]
          exact exponent
        · rw [mantissa, BitVec.toNat_ofNat]
          omega
    · have full : (2 ^ 52 + bits.toNat % 2 ^ 52).log2 = 52 :=
        (Nat.log2_eq_iff (by omega)).2 (by omega)
      rw [pack_finite _ _ (bits.toNat / 2 ^ 52 % 2 ^ 11) _ _ (by rw [exponent]; rfl) (by omega)]
      apply packComponents_eq
      · rw [toNat_fullMantissa, if_pos full, BitVec.toNat_ofNat]
        omega
      · rw [toNat_fullMantissa, BitVec.toNat_ofNat]
        omega

theorem toBits_ofBits {bits : UInt64} (number : bits.toNat % signBit ≤ infinity) :
    (Float.ofBits bits).toBits = bits :=
  UInt64.eq_of_toBitVec_eq (pack_unpack bits.toBitVec number)

theorem toNat_toBits_ofCode {value : Nat} (negative : Bool) (number : value ≤ infinity) :
    (ofCode negative value).toBits.toNat = if negative then signBit + value else value := by
  have small : (if negative then signBit + value else value) < 2 ^ 64 := by
    simp only [signBit, infinity] at *
    split <;> omega
  have whole : (UInt64.ofNat (if negative then signBit + value else value)).toNat =
      if negative then signBit + value else value := by
    rw [UInt64.toNat_ofNat', Nat.mod_eq_of_lt small]
  rw [ofCode, toBits_ofBits, whole]
  rw [whole]
  simp only [signBit, infinity] at *
  split <;> omega

theorem code_ofCode {value : Nat} (negative : Bool) (number : value ≤ infinity) :
    code (ofCode negative value) = value := by
  rw [code, toNat_toBits_ofCode negative number]
  simp only [signBit, infinity] at *
  split <;> omega

theorem isNegative_ofCode {value : Nat} (negative : Bool) (number : value ≤ infinity) :
    isNegative (ofCode negative value) = negative := by
  rw [isNegative, toNat_toBits_ofCode negative number]
  simp only [signBit, infinity] at *
  cases negative with
  | false => simp; omega
  | true => simp

theorem ofBits_toBits {value : Float} (number : code value ≤ infinity) :
    Float.ofBits value.toBits = value := by
  have same : (Float.ofBits value.toBits).toBits = value.toBits := toBits_ofBits number
  obtain ⟨⟨bits, valid⟩⟩ := value
  generalize packed : Float.ofBits (Float.toBits ⟨⟨bits, valid⟩⟩) = other at same
  obtain ⟨⟨otherBits, otherValid⟩⟩ := other
  cases same
  rfl

theorem ofCode_code {value : Float} (number : code value ≤ infinity) :
    ofCode (isNegative value) (code value) = value := by
  have whole : (if isNegative value then signBit + code value else code value) =
      value.toBits.toNat := by
    have bound := value.toBits.toNat_lt
    cases known : isNegative value with
    | false =>
        have small : ¬ signBit ≤ value.toBits.toNat := of_decide_eq_false known
        rw [if_neg Bool.false_ne_true, code]
        exact Nat.mod_eq_of_lt (Nat.not_le.1 small)
    | true =>
        have large : signBit ≤ value.toBits.toNat := of_decide_eq_true known
        rw [if_pos rfl, code]
        simp only [signBit] at *
        omega
  rw [ofCode, whole, UInt64.ofNat_toNat, ofBits_toBits number]

theorem isNaN_eq_false {value : Float} (number : code value ≤ infinity) : value.isNaN = false := by
  have exponent := toNat_exponentBits value.toBits.toBitVec
  have mantissa := toNat_mantissaBits value.toBits.toBitVec
  change (UnpackedFloat.unpack Format.binary64 value.toBits.toBitVec).isNaN = false
  unfold UnpackedFloat.unpack
  dsimp only
  split
  next top =>
    -- The codes of no numbers have the greatest exponent and a mantissa that is not zero.
    have greatest : 2047 = value.toBits.toBitVec.toNat / 2 ^ 52 % 2 ^ 11 := by
      rw [← exponent, show exponentBits value.toBits.toBitVec = -1#11 from top]
      rfl
    have none : (mantissaBits value.toBits.toBitVec).toNat = 0 := by
      change value.toBits.toBitVec.toNat % signBit ≤ infinity at number
      simp only [signBit, infinity] at number
      omega
    split
    next => rfl
    next nonzero => exact absurd (BitVec.eq_of_toNat_eq none) nonzero
  next =>
    split
    next => split <;> rfl
    next => rfl

theorem isFinite_iff (value : Float) : value.isFinite ↔ code value < infinity := by
  have exponent := toNat_exponentBits value.toBits.toBitVec
  have parts : code value < infinity ↔ value.toBits.toBitVec.toNat / 2 ^ 52 % 2 ^ 11 ≠ 2047 := by
    change value.toBits.toBitVec.toNat % signBit < infinity ↔ _
    simp only [signBit, infinity]
    omega
  change (UnpackedFloat.unpack Format.binary64 value.toBits.toBitVec).isFinite ↔ _
  rw [parts, ← exponent]
  unfold UnpackedFloat.unpack
  dsimp only
  split
  next greatest =>
    rw [show exponentBits value.toBits.toBitVec = -1#11 from greatest]
    split <;> simp [UnpackedFloat.isFinite]
  next less =>
    have within : (exponentBits value.toBits.toBitVec).toNat ≠ 2047 := by
      intro same
      exact less (BitVec.eq_of_toNat_eq same)
    split
    · split <;> simpa [UnpackedFloat.isFinite] using within
    · simpa [UnpackedFloat.isFinite] using within

theorem unpack_eq_zero_iff (bits : BitVec 64) :
    (∃ sign, UnpackedFloat.unpack Format.binary64 bits = .zero sign) ↔
      bits.toNat % signBit = 0 := by
  have exponent : (@UnpackedFloat.unpackExponent Format.binary64 bits).toNat = _ :=
    toNat_exponentBits bits
  have mantissa : (@UnpackedFloat.unpackMantissa Format.binary64 bits).toNat = _ :=
    toNat_mantissaBits bits
  have parts : bits.toNat % signBit = 0 ↔
      bits.toNat / 2 ^ 52 % 2 ^ 11 = 0 ∧ bits.toNat % 2 ^ 52 = 0 := by
    simp only [signBit]
    omega
  rw [parts, ← exponent, ← mantissa]
  unfold UnpackedFloat.unpack
  dsimp only
  split
  next greatest =>
    rw [greatest]
    split <;> simp
  next =>
    split
    next least =>
      rw [least]
      split
      next none => simp [none]
      next some => simpa using fun zero => some (BitVec.eq_of_toNat_eq zero)
    next more => simpa using fun zero => absurd (BitVec.eq_of_toNat_eq zero) more

theorem compare_zero_eq_iff (value : UnpackedFloat) (sign : Sign) :
    value.compare (.zero sign) = some .eq ↔ ∃ sign, value = .zero sign := by
  rcases value with (_ | _) | _ | _ | ⟨_ | _, _, _, _⟩ <;> simp [UnpackedFloat.compare]

theorem beq_zero_iff (value : Float) : value == 0 ↔ code value = 0 := by
  have bits : (0 : Float).toBits = 0 := by decide +kernel
  obtain ⟨sign, zero⟩ :=
    (unpack_eq_zero_iff (0 : Float).toBits.toBitVec).2 (by rw [bits]; rfl)
  calc
    value == 0 ↔ ((UnpackedFloat.unpack Format.binary64 value.toBits.toBitVec).compare
        (UnpackedFloat.unpack Format.binary64 (0 : Float).toBits.toBitVec) == some .eq) =
          true :=
      Iff.rfl
    _ ↔ code value = 0 := by
      rw [beq_iff_eq, zero, compare_zero_eq_iff, unpack_eq_zero_iff]
      rfl

end NumScript.Binary64
