import NumScript.Binary64

set_option autoImplicit false

namespace NumScript

structure Decimal where
  coefficient : Nat
  exponent : Int
  deriving DecidableEq

namespace Decimal

attribute [local instance (2000)] instPowNat

open Binary64

/--
The code of the nearest binary64 value. Numbers of at least `10 ^ 309` and numbers under
`10 ^ -324` are settled first, so that no huge power of ten is ever computed.
-/
def code (decimal : Decimal) : Nat :=
  if decimal.coefficient = 0 ∨ decimal.exponent + decimal.coefficient.log2 + 325 < 0 then 0
  else if 309 ≤ decimal.exponent then infinity
  else
    nearest (decimal.coefficient * 10 ^ decimal.exponent.toNat * 2 ^ depth)
      (10 ^ (-decimal.exponent).toNat)

theorem code_le_infinity (decimal : Decimal) : decimal.code ≤ infinity := by
  unfold code
  split
  · exact Nat.zero_le infinity
  · split
    · exact Nat.le_refl infinity
    · exact nearest_le_infinity _ _

def readDigits? (text : List Char) : Option Nat :=
  if text ≠ [] ∧ text.all Char.isDigit then some (Nat.ofDigitChars 10 text 0) else none

def readExponent? : List Char -> Option Int
  | [] => some 0
  | mark :: rest =>
      if mark = 'e' ∨ mark = 'E' then
        match rest with
        | '-' :: digits => (readDigits? digits).map (fun size => -(size : Int))
        | '+' :: digits => (readDigits? digits).map (fun size => (size : Int))
        | digits => (readDigits? digits).map (fun size => (size : Int))
      else none

def assemble? (whole places rest : List Char) : Option Decimal :=
  -- Digits may be missing on either side of the point, but not on both.
  if whole ++ places = [] then none
  else
    (readExponent? rest).map fun exponent =>
      { coefficient := Nat.ofDigitChars 10 (whole ++ places) 0
        exponent := exponent - places.length }

def read? (text : List Char) : Option Decimal :=
  let whole := text.takeWhile Char.isDigit
  match text.dropWhile Char.isDigit with
  | '.' :: rest => assemble? whole (rest.takeWhile Char.isDigit) (rest.dropWhile Char.isDigit)
  | rest => assemble? whole [] rest

def write (decimal : Decimal) : List Char :=
  if 0 ≤ decimal.exponent then
    Nat.toDigits 10 (decimal.coefficient * 10 ^ decimal.exponent.toNat)
  else
    let places := (-decimal.exponent).toNat
    let digits := Nat.toDigits 10 decimal.coefficient
    -- At least one digit stands before the point.
    let padded := List.replicate (places + 1 - digits.length) '0' ++ digits
    padded.take (padded.length - places) ++ '.' :: padded.drop (padded.length - places)

end Decimal

end NumScript
