import NumScript.Decimal.Shortest

set_option autoImplicit false

namespace NumScript.Numeral

open Binary64

def unsign : List Char -> Bool × List Char
  | '-' :: rest => (true, rest)
  | '+' :: rest => (false, rest)
  | text => (false, text)

def namedCode? (text : List Char) : Option Nat :=
  let name := String.ofList (text.map Char.toLower)
  if name = "inf" ∨ name = "infinity" then some infinity
  else if name = "nan" then some undefined
  else none

def read? (text : String) : Option Float :=
  let (negative, body) := unsign text.toList
  let code? := match Decimal.read? body with
    | some decimal => some decimal.code
    | none => namedCode? body
  code?.map (ofCode negative)

def write (value : Float) : String :=
  let code := code value
  let sign := if isNegative value then "-" else ""
  -- Minus zero keeps its sign; what is no number has none.
  if infinity < code then "NaN"
  else if code = infinity then sign ++ "inf"
  else sign ++ String.ofList (Decimal.shortest code).write

end NumScript.Numeral
