set_option autoImplicit false

namespace NumScript

inductive RuntimeError where
  | alreadyDeclared (name : String) (line : Nat)
  | undeclared (name : String) (line : Nat)
  | divisionByZero (line : Nat)
  | output (cause : String) (line : Nat)
  deriving DecidableEq

namespace RuntimeError

def line : RuntimeError -> Nat
  | alreadyDeclared _ line | undeclared _ line | divisionByZero line | output _ line => line

def message (error : RuntimeError) : String :=
  let place := " [line " ++ toString error.line ++ "]"
  match error with
  | alreadyDeclared name _ => "variable '" ++ name ++ "' is already declared" ++ place
  | undeclared name _ => "variable '" ++ name ++ "' is not declared" ++ place
  | divisionByZero _ => "division by zero" ++ place
  | output cause _ => "could not write output" ++ place ++ ": " ++ cause

end RuntimeError

end NumScript
