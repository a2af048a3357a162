import NumScript.Proofs.AttemptBlocks

set_option autoImplicit false

namespace NumScript

open Grammar

def firstName? (tokens : List Token) : Option Token :=
  tokens.find? (fun token => token.kind = .identifier)

/-- The token that a statement made of some tokens takes its line from. -/
def Stmt.anchor? (tokens : List Token) : Stmt -> Option Token
  | declaration _ _ _ | assignment _ _ _ => firstName? tokens
  | print _ _ | evaluation _ _ => tokens.head?

def Stmt.AnchoredElsewhere (tokens : List Token) (statement : Stmt) : Prop :=
  ∃ first ∈ tokens.head?, ∃ anchor ∈ statement.anchor? tokens, anchor.line ≠ first.line

namespace Grammar

theorem Target.firstName? {tokens : List Token} {name : String} {line : Nat}
    (target : Target tokens name line) (after : List Token) :
    ∃ token, firstName? (tokens ++ after) = some token ∧ token.text = name ∧ token.line = line := by
  induction target generalizing after with
  | @name token kind => exact ⟨token, by simp [NumScript.firstName?, kind], rfl, rfl⟩
  | @parenthesized opening closing inside name line opens _ _ ih =>
      obtain ⟨token, found, same⟩ := ih (closing :: after)
      refine ⟨token, ?_, same⟩
      rw [← found]
      simp [NumScript.firstName?, opens]

theorem Statement.exists_anchor {tokens : List Token} {statement : Stmt}
    (sentence : Statement tokens statement) :
    ∃ first anchor, tokens.head? = some first ∧ statement.anchor? tokens = some anchor ∧
      statement.line = anchor.line := by
  cases sentence with
  | @declaration keyword name _ _ _ _ begins called =>
      exact ⟨keyword, name, rfl, by simp [Stmt.anchor?, firstName?, begins, called], rfl⟩
  | @print keyword => exact ⟨keyword, keyword, rfl, rfl, rfl⟩
  | @assignment equals semicolon targets tokens _ _ _ target =>
      have begins : ∃ first rest, targets = first :: rest := by
        cases target <;> exact ⟨_, _, rfl⟩
      obtain ⟨first, rest, same⟩ := begins
      obtain ⟨anchor, found, -, line⟩ := target.firstName? (equals :: (tokens ++ [semicolon]))
      exact ⟨first, anchor, by rw [same]; rfl, found, line.symm⟩
  | @evaluation first => exact ⟨first, first, rfl, rfl, rfl⟩

theorem Statement.line_eq_iff {tokens : List Token} {statement : Stmt} {first : Token}
    (sentence : Statement tokens statement) (begins : tokens.head? = some first) :
    statement.line = first.line ↔ ¬ statement.AnchoredElsewhere tokens := by
  obtain ⟨_, anchor, _, found, line⟩ := sentence.exists_anchor
  simp [Stmt.AnchoredElsewhere, begins, found, line]

end Grammar

-- Where nothing is refused, each block is the statement that its attempt has read.
theorem Blocks.forall₂_statement {last : Token} {tokens : List Token} {blocks : List Block}
    (whole : Blocks last tokens blocks)
    (clean : (blocks.map Block.attempt).filterMap Attempt.error? = []) :
    List.Forall₂ (fun block statement => Statement block.tokens statement) blocks
      ((blocks.map Block.attempt).filterMap Attempt.statement?) := by
  induction whole with
  | nil => exact .nil
  | @cons block rest blocks first _ ih =>
      cases parsed : block.attempt with
      | refused => simp [parsed, Attempt.error?] at clean
      | parsed statement unread =>
          simp only [List.map_cons, parsed, List.filterMap_cons, Attempt.error?,
            Attempt.statement?] at clean ⊢
          exact .cons (first.sentence statement unread parsed) (ih clean)

theorem statement_lines_exact {tokens : List Token} {program : Program}
    (parsed : parse tokens = .ok program) :
    (blocks tokens).flatMap Block.tokens = body tokens ∧
      List.Forall₂ (fun block statement => Statement block.tokens statement ∧
          ∃ first anchor, block.tokens.head? = some first ∧
            statement.anchor? block.tokens = some anchor ∧ statement.line = anchor.line ∧
            (statement.line = first.line ↔ ¬ statement.AnchoredElsewhere block.tokens))
        (blocks tokens) program := by
  have whole := blocks_of_attemptsOn (closing tokens) (body tokens)
  obtain ⟨clean, rfl⟩ := parse_eq_ok.1 parsed
  rw [← whole.map_attempt] at clean ⊢
  refine ⟨whole.flatMap_tokens, (whole.forall₂_statement clean).imp ?_⟩
  intro block statement sentence
  obtain ⟨first, anchor, begins, found, line⟩ := sentence.exists_anchor
  exact ⟨sentence, first, anchor, begins, found, line, sentence.line_eq_iff begins⟩

def nameOnNextLine : String :=
  "declarar\nx = 1;\n(\nx) = 2;"

def nameOnNextLineTokens : List Token :=
  [⟨.declare, "declarar", 1⟩, ⟨.identifier, "x", 2⟩, ⟨.equals, "=", 2⟩, ⟨.number, "1", 2⟩,
    ⟨.semicolon, ";", 2⟩, ⟨.leftParen, "(", 3⟩, ⟨.identifier, "x", 4⟩, ⟨.rightParen, ")", 4⟩,
    ⟨.equals, "=", 4⟩, ⟨.number, "2", 4⟩, ⟨.semicolon, ";", 4⟩, ⟨.endOfFile, "", 4⟩]

def nameOnNextLineProgram : Program :=
  [.declaration "x" (.number 1) 2, .assignment "x" (.number 2) 4]

theorem parse_nameOnNextLine : parse nameOnNextLineTokens = .ok nameOnNextLineProgram := by
  decide +kernel

theorem statement_lines_exact_name_on_next_line :
    parse nameOnNextLineTokens = .ok nameOnNextLineProgram ∧
      List.Forall₂ (fun block statement => ∃ first, block.tokens.head? = some first ∧
          (statement.line = first.line ↔ ¬ statement.AnchoredElsewhere block.tokens))
        (blocks nameOnNextLineTokens) nameOnNextLineProgram := by
  refine ⟨parse_nameOnNextLine, (statement_lines_exact parse_nameOnNextLine).2.imp ?_⟩
  rintro block statement ⟨-, first, anchor, begins, -, -, exactly⟩
  exact ⟨first, begins, exactly⟩

theorem name_line_is_not_first_line :
    tokenize nameOnNextLine = .ok nameOnNextLineTokens ∧
      parse nameOnNextLineTokens = .ok nameOnNextLineProgram ∧
      (blocks nameOnNextLineTokens).map (fun block => block.tokens.head?.map Token.line) =
        [some 1, some 3] ∧
      nameOnNextLineProgram.map Stmt.line = [2, 4] := by
  exact ⟨by decide +kernel, parse_nameOnNextLine, by decide +kernel, rfl⟩

end NumScript
