set_option autoImplicit false

namespace NumScript

structure PrintedLine where
  text : String
  line : Nat
  deriving DecidableEq

inductive Reply where
  | accepted
  | refused (cause : String)
  deriving DecidableEq

structure Terminal (σ : Type) where
  print : PrintedLine -> σ -> Reply × σ

namespace Terminal

def recorder : Terminal (List PrintedLine) where
  print line lines := (.accepted, lines ++ [line])

def stream : Terminal String where
  print line written := (.accepted, written ++ line.text ++ "\n")

structure Selection where
  offered : Nat := 0
  lines : List PrintedLine := []

def selective (refusals : List Nat) : Terminal Selection where
  print line selection :=
    let number := selection.offered + 1
    if number ∈ refusals then (.refused "line refused", { selection with offered := number })
    else (.accepted, { offered := number, lines := selection.lines ++ [line] })

end Terminal

end NumScript
