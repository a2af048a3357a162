import NumScript.Proofs.Reading.Attempts

set_option autoImplicit false

namespace NumScript

open Grammar

theorem parse_eq_ok {tokens : List Token} {program : Program} :
    parse tokens = .ok program ↔
      (attempts (closing tokens) (body tokens)).filterMap Attempt.error? = [] ∧
        (attempts (closing tokens) (body tokens)).filterMap Attempt.statement? = program := by
  simp only [parse]
  split
  next clean => simp [clean]
  next dirty =>
    constructor
    · intro refused
      cases refused
    · intro accepted
      exact absurd accepted.1 dirty

theorem statements_unique {tokens : List Token} {first second : Program}
    (one : Statements tokens first) (other : Statements tokens second) : first = second := by
  have kept := (attempts_of_statements (closing tokens) one).2
  rw [← kept]
  exact (attempts_of_statements (closing tokens) other).2

theorem parse_exact :
    (∀ (tokens : List Token) (program : Program), parse tokens = .ok program ↔
      Statements (tokens.takeWhile (fun token => token.kind != .endOfFile)) program) ∧
    ∀ (tokens : List Token) (first second : Program),
      Statements tokens first → Statements tokens second → first = second := by
  refine ⟨?_, fun _ _ _ => statements_unique⟩
  intro tokens program
  rw [parse_eq_ok]
  constructor
  · rintro ⟨clean, rfl⟩
    exact statements_of_attempts (closing tokens) (body tokens) clean
  · intro sentences
    exact attempts_of_statements (closing tokens) sentences

def groupedTarget : List Token :=
  [⟨.leftParen, "(", 1⟩, ⟨.identifier, "x", 2⟩, ⟨.rightParen, ")", 2⟩, ⟨.equals, "=", 3⟩,
    ⟨.identifier, "y", 3⟩, ⟨.minus, "-", 3⟩, ⟨.identifier, "z", 4⟩, ⟨.star, "*", 4⟩,
    ⟨.identifier, "y", 5⟩, ⟨.semicolon, ";", 5⟩, ⟨.endOfFile, "", 6⟩, ⟨.star, "*", 7⟩]

def groupedTargetProgram : Program :=
  [.assignment "x" (.binary .sub ⟨.minus, "-", 3⟩ (.var "y" 3)
    (.binary .mul ⟨.star, "*", 4⟩ (.var "z" 4) (.var "y" 5))) 2]

theorem parse_exact_target_in_parentheses :
    parse groupedTarget = .ok groupedTargetProgram ∧
      ∀ other, Statements (groupedTarget.takeWhile (fun token => token.kind != .endOfFile)) other →
        other = groupedTargetProgram := by
  have target : Target (⟨.leftParen, "(", 1⟩ :: ([⟨.identifier, "x", 2⟩] ++
      [⟨.rightParen, ")", 2⟩])) "x" 2 :=
    .parenthesized rfl (.name rfl) rfl
  have left : Phrase .sum [⟨.identifier, "y", 3⟩] (.var "y" 3) :=
    .product (.operand (.name rfl))
  have right : Phrase .product ([⟨.identifier, "z", 4⟩] ++ ⟨.star, "*", 4⟩ ::
      [⟨.identifier, "y", 5⟩]) (.binary .mul ⟨.star, "*", 4⟩ (.var "z" 4) (.var "y" 5)) :=
    .times (.operand (.name rfl)) .star (.name rfl)
  have value := @Phrase.plus _ _ ⟨.minus, "-", 3⟩ _ _ _ left .minus right
  have assignment := @Statement.assignment ⟨.equals, "=", 3⟩ ⟨.semicolon, ";", 5⟩ _ _ _ _ _
    target rfl value rfl
  have sentences : Statements (groupedTarget.takeWhile (fun token => token.kind != .endOfFile))
      groupedTargetProgram :=
    .cons assignment .nil
  refine ⟨(parse_exact.1 _ _).2 sentences, ?_⟩
  intro other reading
  exact parse_exact.2 _ other groupedTargetProgram reading sentences

end NumScript
