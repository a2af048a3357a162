import NumScript.PartialStmt
import NumScript.Proofs.Reading.Expressions

set_option autoImplicit false

namespace NumScript

open Grammar

-- The tokens in front of an expression. A bare one has none; its line is that of its first token.
inductive Slot.Spans : Slot -> List Token -> Prop where
  | initializer {keyword name equals : Token} (begins : keyword.kind = .declare)
      (called : name.kind = .identifier) (gives : equals.kind = .equals) :
      Spans (.initializer name) [keyword, name, equals]
  | argument {keyword opening : Token} (begins : keyword.kind = .print)
      (opens : opening.kind = .leftParen) : Spans (.argument keyword.line) [keyword, opening]
  | assigned {equals : Token} {targets : List Token} {name : String} {line : Nat}
      (target : Target targets name line) (gives : equals.kind = .equals) :
      Spans (.assigned name line) (targets ++ [equals])

namespace PartialStmt

inductive Spans : PartialStmt -> List Token -> Prop where
  | start : Spans start []
  | declaring {keyword : Token} (begins : keyword.kind = .declare) : Spans declaring [keyword]
  | named {keyword name : Token} (begins : keyword.kind = .declare)
      (called : name.kind = .identifier) : Spans (named name) [keyword, name]
  | printing {keyword : Token} (begins : keyword.kind = .print) :
      Spans (printing keyword.line) [keyword]
  | inside {slot : Slot} {reading : PartialExpr} {before tokens : List Token}
      (placed : slot.Spans before) (spans : reading.Spans tokens) :
      Spans (inside slot reading) (before ++ tokens)
  | bare {reading : PartialExpr} {first : Token} {rest : List Token}
      (spans : reading.Spans (first :: rest)) :
      Spans (inside (.bare first.line) reading) (first :: rest)
  | printed {keyword opening closing : Token} {tokens : List Token} {expression : Expr}
      (begins : keyword.kind = .print) (opens : opening.kind = .leftParen)
      (phrase : Phrase .sum tokens expression) (closes : closing.kind = .rightParen) :
      Spans (printed expression keyword.line) (keyword :: opening :: (tokens ++ [closing]))

def Step.Sound (tokens : List Token) : Step -> Prop
  | next state => state.Spans tokens
  | done statement => Statement tokens statement
  | unexpected | invalid _ => True

theorem sound_afterExpression {slot : Slot} {before tokens : List Token} {expression : Expr}
    (placed : slot.Spans before) (phrase : Phrase .sum tokens expression) (token : Token) :
    (afterExpression slot expression token).Sound (before ++ (tokens ++ [token])) := by
  unfold afterExpression
  cases placed with
  | initializer begins called gives =>
      split <;> try trivial
      next same ends =>
        cases same
        exact .declaration begins called gives phrase ends
  | argument begins opens =>
      split <;> try trivial
      next same closes =>
        cases same
        exact .printed begins opens phrase closes
  | assigned target gives =>
      split <;> try trivial
      next same ends =>
        cases same
        simpa [Step.Sound] using Statement.assignment target gives phrase ends

theorem sound_afterBare {first : Token} {rest : List Token} {expression : Expr}
    (phrase : Phrase .sum (first :: rest) expression) (token : Token) :
    (afterExpression (.bare first.line) expression token).Sound (first :: (rest ++ [token])) := by
  unfold afterExpression
  split <;> try trivial
  next same ends =>
    cases same
    exact .evaluation phrase ends
  next same gives =>
    split
    next name line =>
      simpa [Step.Sound] using Spans.inside (.assigned phrase.target gives) PartialExpr.spans_empty
    next => trivial

theorem Spans.step {state : PartialStmt} {tokens : List Token} (spans : state.Spans tokens)
    (token : Token) : (state.step token).Sound (tokens ++ [token]) := by
  cases spans with
  | start =>
      simp only [PartialStmt.step]
      split
      next begins => exact .declaring begins
      next begins => exact .printing begins
      next =>
        have sound := PartialExpr.spans_empty.step token
        rw [readInside]
        split <;> try trivial
        next read =>
          rw [read] at sound
          exact .bare sound
        next read => exact absurd read PartialExpr.step_wanting_ne_whole
  | declaring begins =>
      simp only [PartialStmt.step]
      split
      next called => exact .named begins called
      next => trivial
  | named begins called =>
      simp only [PartialStmt.step]
      split
      next gives =>
        have placed := Slot.Spans.initializer begins called gives
        simpa [Step.Sound] using Spans.inside placed PartialExpr.spans_empty
      next => trivial
  | printing begins =>
      simp only [PartialStmt.step]
      split
      next opens =>
        have placed := Slot.Spans.argument begins opens
        simpa [Step.Sound] using Spans.inside placed PartialExpr.spans_empty
      next => trivial
  | inside placed spans =>
      have sound := spans.step token
      simp only [PartialStmt.step, readInside]
      split <;> try trivial
      next read =>
        rw [read] at sound
        simpa [Step.Sound] using Spans.inside placed sound
      next read =>
        rw [read] at sound
        simpa using sound_afterExpression placed sound token
  | bare spans =>
      have sound := spans.step token
      simp only [PartialStmt.step, readInside]
      split <;> try trivial
      next read =>
        rw [read] at sound
        exact .bare sound
      next read =>
        rw [read] at sound
        exact sound_afterBare sound token
  | printed begins opens phrase closes =>
      simp only [PartialStmt.step]
      split
      next ends => simpa [Step.Sound] using Statement.print begins opens phrase closes ends
      next => trivial

abbrev LeadsTo : PartialStmt -> List Token -> PartialStmt -> Prop :=
  Path (fun state token next => state.step token = .next next)

theorem Spans.leadsTo {state next : PartialStmt} {before tokens : List Token}
    (spans : state.Spans before) (reads : state.LeadsTo tokens next) :
    next.Spans (before ++ tokens) := by
  induction reads generalizing before with
  | nil => simpa using spans
  | @cons state middle last token rest stepped _ ih =>
      have sound := spans.step token
      rw [stepped] at sound
      simpa using ih sound

theorem leadsTo_inside {slot : Slot} {reading next : PartialExpr} {tokens : List Token}
    (reads : reading.LeadsTo tokens next) :
    (inside slot reading).LeadsTo tokens (inside slot next) := by
  refine reads.map ?_
  intro reading token next stepped
  rw [PartialStmt.step, readInside, stepped]

theorem step_holding_of_not_operator {slot : Slot} {level : Level} {operand : Expr} {token : Token}
    (none : BinOp.ofKind? token.kind = none) :
    (inside slot (.holding level [] operand)).step token =
      afterExpression slot (level.close operand) token := by
  simp [PartialStmt.step, readInside, PartialExpr.step, PartialExpr.readOperator, none]

-- A whole expression leaves a state that any token but an operator takes to what follows the slot.
theorem leadsTo_phrase {tokens : List Token} {expression : Expr}
    (phrase : Phrase .sum tokens expression) (slot : Slot) :
    ∃ state, (inside slot .empty).LeadsTo tokens state ∧
      ∀ token, BinOp.ofKind? token.kind = none →
        state.step token = afterExpression slot expression token := by
  obtain ⟨level, operand, read, closed⟩ := PartialExpr.reads_of_phrase phrase []
  refine ⟨_, leadsTo_inside read, ?_⟩
  intro token none
  rw [step_holding_of_not_operator none, closed]

theorem step_start_of_phrase {first : Token} {rest : List Token} {expression : Expr}
    (phrase : Phrase .sum (first :: rest) expression) :
    start.step first = (inside (.bare first.line) .empty).step first := by
  obtain ⟨level, operand, read, -⟩ := PartialExpr.reads_of_phrase phrase []
  cases read with
  | cons stepped _ =>
      simp only [PartialExpr.step, PartialExpr.readOperand] at stepped
      simp only [PartialStmt.step]
      -- No phrase begins with a keyword.
      split
      next kind => simp [kind] at stepped
      next kind => simp [kind] at stepped
      next => rfl

theorem leadsTo_start_phrase {first : Token} {rest : List Token} {expression : Expr}
    (phrase : Phrase .sum (first :: rest) expression) :
    ∃ state, start.LeadsTo (first :: rest) state ∧
      ∀ token, BinOp.ofKind? token.kind = none →
        state.step token = afterExpression (.bare first.line) expression token := by
  obtain ⟨state, read, whole⟩ := leadsTo_phrase phrase (.bare first.line)
  cases read with
  | cons stepped onward =>
      exact ⟨state, .cons ((step_start_of_phrase phrase).trans stepped) onward, whole⟩

def Accepts (tokens : List Token) (statement : Stmt) : Prop :=
  ∃ before last state, tokens = before ++ [last] ∧ start.LeadsTo before state ∧
    state.step last = .done statement

theorem statement_of_accepts {tokens : List Token} {statement : Stmt}
    (accepts : Accepts tokens statement) : Statement tokens statement := by
  obtain ⟨before, last, state, rfl, read, finished⟩ := accepts
  have sound := (Spans.start.leadsTo read).step last
  rw [finished] at sound
  exact sound

theorem accepts_of_statement {tokens : List Token} {statement : Stmt}
    (sentence : Statement tokens statement) : Accepts tokens statement := by
  cases sentence with
  | @declaration keyword name equals semicolon tokens expression begins called gives phrase ends =>
      obtain ⟨state, read, whole⟩ := leadsTo_phrase phrase (.initializer name)
      have begun : start.step keyword = .next declaring := by simp [PartialStmt.step, begins]
      have named : declaring.step name = .next (.named name) := if_pos called
      have given : (PartialStmt.named name).step equals =
          .next (inside (.initializer name) .empty) :=
        if_pos gives
      refine ⟨keyword :: name :: equals :: tokens, semicolon, state, rfl,
        .cons begun (.cons named (.cons given read)), ?_⟩
      simp [whole, ends, BinOp.ofKind?, afterExpression]
  | @print keyword opening closing semicolon tokens expression begins opens phrase closes ends =>
      obtain ⟨state, read, whole⟩ := leadsTo_phrase phrase (.argument keyword.line)
      have begun : start.step keyword = .next (printing keyword.line) := by
        simp [PartialStmt.step, begins]
      have opened : (printing keyword.line).step opening =
          .next (inside (.argument keyword.line) .empty) :=
        if_pos opens
      have closed : state.step closing = .next (printed expression keyword.line) := by
        simp [whole, closes, BinOp.ofKind?, afterExpression]
      exact ⟨keyword :: opening :: (tokens ++ [closing]), semicolon,
        printed expression keyword.line, by simp,
        .cons begun (.cons opened (read.append (.cons closed .nil))), if_pos ends⟩
  | @assignment equals semicolon targets tokens name line expression target gives phrase ends =>
      cases targets with
      | nil => cases target
      | cons first rest =>
          have named := Phrase.product (.operand target.phrase)
          obtain ⟨aimed, readTarget, wholeTarget⟩ := leadsTo_start_phrase named
          obtain ⟨state, read, whole⟩ := leadsTo_phrase phrase (.assigned name line)
          have given : aimed.step equals = .next (inside (.assigned name line) .empty) := by
            simp [wholeTarget, gives, BinOp.ofKind?, afterExpression]
          refine ⟨first :: rest ++ equals :: tokens, semicolon, state, by simp,
            readTarget.append (.cons given read), ?_⟩
          simp [whole, ends, BinOp.ofKind?, afterExpression]
  | @evaluation first semicolon rest expression phrase ends =>
      obtain ⟨state, read, whole⟩ := leadsTo_start_phrase phrase
      refine ⟨first :: rest, semicolon, state, rfl, read, ?_⟩
      simp [whole, ends, BinOp.ofKind?, afterExpression]

theorem accepts_iff {tokens : List Token} {statement : Stmt} :
    Accepts tokens statement ↔ Statement tokens statement :=
  ⟨statement_of_accepts, accepts_of_statement⟩

end PartialStmt

end NumScript
