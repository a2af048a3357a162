import NumScript.PartialExpr
import NumScript.Proofs.Grammar

set_option autoImplicit false

namespace NumScript

open Grammar

/-- Tokens that take a state on to another one, step by step. -/
inductive Path {σ : Type} (Next : σ -> Token -> σ -> Prop) : σ -> List Token -> σ -> Prop where
  | nil {state : σ} : Path Next state [] state
  | cons {state middle last : σ} {token : Token} {rest : List Token}
      (stepped : Next state token middle) (onward : Path Next middle rest last) :
      Path Next state (token :: rest) last

namespace Path

variable {σ τ : Type} {Next : σ -> Token -> σ -> Prop} {Image : τ -> Token -> τ -> Prop}

theorem append {state middle last : σ} {before after : List Token}
    (first : Path Next state before middle) (second : Path Next middle after last) :
    Path Next state (before ++ after) last := by
  induction first with
  | nil => exact second
  | cons stepped _ ih => exact .cons stepped (ih second)

theorem map {view : σ -> τ} {state last : σ} {tokens : List Token}
    (mirrors : ∀ state token next, Next state token next → Image (view state) token (view next))
    (path : Path Next state tokens last) : Path Image (view state) tokens (view last) := by
  induction path with
  | nil => exact .nil
  | cons stepped _ ih => exact .cons (mirrors _ _ _ stepped) ih

end Path

inductive Pending.Spans (rank : Rank) : Option Pending -> List Token -> Prop where
  | none : Spans rank none []
  | some {tokens : List Token} {operator : Token} {op : BinOp} {left : Expr}
      (phrase : Phrase rank tokens left) (sign : Sign rank operator.kind op) :
      Spans rank (some ⟨left, op, operator⟩) (tokens ++ [operator])

inductive Level.Spans : Level -> List Token -> Prop where
  | intro {sum product : Option Pending} {before after : List Token}
      (added : Pending.Spans .sum sum before) (multiplied : Pending.Spans .product product after) :
      Spans ⟨sum, product⟩ (before ++ after)

inductive Level.SpanAll : List Level -> List Token -> Prop where
  | nil : SpanAll [] []
  | cons {level : Level} {outer : List Level} {before tokens : List Token} {opening : Token}
      (surrounded : SpanAll outer before) (waits : level.Spans tokens)
      (opens : opening.kind = .leftParen) :
      SpanAll (level :: outer) (before ++ (tokens ++ [opening]))

inductive PartialExpr.Spans : PartialExpr -> List Token -> Prop where
  | wanting {inner : Level} {outer : List Level} {before tokens : List Token}
      (surrounded : Level.SpanAll outer before) (waits : inner.Spans tokens) :
      Spans (.wanting inner outer) (before ++ tokens)
  | holding {inner : Level} {outer : List Level} {before tokens after : List Token} {operand : Expr}
      (surrounded : Level.SpanAll outer before) (waits : inner.Spans tokens)
      (phrase : Phrase .operand after operand) :
      Spans (.holding inner outer operand) (before ++ (tokens ++ after))

theorem Pending.Spans.product {pending : Option Pending} {before after : List Token}
    {operand : Expr} (waits : Pending.Spans .product pending before)
    (phrase : Phrase .operand after operand) :
    Phrase .product (before ++ after) (Pending.finish pending operand) := by
  cases waits with
  | none => exact .operand phrase
  | some first sign => simpa [Pending.finish] using Phrase.times first sign phrase

theorem Pending.Spans.sum {pending : Option Pending} {before after : List Token} {right : Expr}
    (waits : Pending.Spans .sum pending before) (phrase : Phrase .product after right) :
    Phrase .sum (before ++ after) (Pending.finish pending right) := by
  cases waits with
  | none => exact .product phrase
  | some first sign => simpa [Pending.finish] using Phrase.plus first sign phrase

namespace Level

theorem spans_empty : Spans {} [] :=
  .intro .none .none

theorem Spans.close {level : Level} {tokens after : List Token} {operand : Expr}
    (waits : level.Spans tokens) (phrase : Phrase .operand after operand) :
    Phrase .sum (tokens ++ after) (level.close operand) := by
  cases waits with
  | intro added multiplied =>
      rw [List.append_assoc]
      exact added.sum (multiplied.product phrase)

theorem Spans.push {level : Level} {tokens after : List Token} {operand : Expr} {op : BinOp}
    {operator : Token} (waits : level.Spans tokens) (phrase : Phrase .operand after operand)
    (known : BinOp.ofKind? operator.kind = some op) :
    (level.push operand op operator).Spans (tokens ++ (after ++ [operator])) := by
  have sign := sign_of_ofKind? known
  rw [Level.push]
  split at sign
  next stronger =>
    rw [if_pos stronger]
    cases waits with
    | intro added multiplied =>
        have waits := Spans.intro added (.some (multiplied.product phrase) sign)
        simpa [Level.factor] using waits
  next weaker =>
    rw [if_neg weaker]
    have waits := Spans.intro (.some (waits.close phrase) sign) .none
    simpa using waits

end Level

namespace PartialExpr

theorem spans_empty : Spans empty [] :=
  .wanting .nil Level.spans_empty

def Step.Sound (tokens : List Token) (token : Token) : Step -> Prop
  | next reading => reading.Spans (tokens ++ [token])
  | whole expression => Phrase .sum tokens expression
  | unexpected | invalidNumber => True

theorem Spans.step {reading : PartialExpr} {tokens : List Token} (spans : reading.Spans tokens)
    (token : Token) : (reading.step token).Sound tokens token := by
  cases spans with
  | wanting surrounded waits =>
      simp only [PartialExpr.step, readOperand]
      split
      next kind =>
        split
        next value known =>
          simpa [Step.Sound] using Spans.holding surrounded waits (.number kind known)
        next => trivial
      next kind => simpa [Step.Sound] using Spans.holding surrounded waits (.name kind)
      next kind =>
        have inside := Spans.wanting (.cons surrounded waits kind) Level.spans_empty
        simpa [Step.Sound] using inside
      next => trivial
  | holding surrounded waits phrase =>
      simp only [PartialExpr.step, readOperator]
      split
      next op known => simpa [Step.Sound] using Spans.wanting surrounded (waits.push phrase known)
      next =>
        cases surrounded with
        | nil => exact waits.close phrase
        | cons surrounded around opens =>
            dsimp only
            split
            next closes =>
              have inside := Phrase.parenthesized opens (waits.close phrase) closes
              simpa [Step.Sound] using Spans.holding surrounded around inside
            next => trivial

theorem step_wanting_ne_whole {inner : Level} {outer : List Level} {token : Token}
    {expression : Expr} : (wanting inner outer).step token ≠ .whole expression := by
  simp only [PartialExpr.step, readOperand]
  split
  next => split <;> simp
  all_goals simp

abbrev LeadsTo : PartialExpr -> List Token -> PartialExpr -> Prop :=
  Path (fun reading token next => reading.step token = .next next)

-- A tighter phrase leaves untouched what waits around it, a looser one is wanted only alone.
def Reads : Rank -> List Token -> Expr -> Prop
  | .operand, tokens, expression =>
      ∀ inner outer, (wanting inner outer).LeadsTo tokens (holding inner outer expression)
  | .product, tokens, expression =>
      ∀ sum outer, ∃ product operand,
        (wanting ⟨sum, none⟩ outer).LeadsTo tokens (holding ⟨sum, product⟩ outer operand) ∧
          Pending.finish product operand = expression
  | .sum, tokens, expression =>
      ∀ outer, ∃ level operand,
        (wanting {} outer).LeadsTo tokens (holding level outer operand) ∧
          level.close operand = expression

theorem step_holding_sign {rank : Rank} {inner : Level} {outer : List Level} {operand : Expr}
    {operator : Token} {op : BinOp} (sign : Sign rank operator.kind op) :
    (holding inner outer operand).step operator =
      .next (wanting (inner.push operand op operator) outer) := by
  simp [PartialExpr.step, readOperator, sign.ofKind?]

theorem reads_of_phrase {rank : Rank} {tokens : List Token} {expression : Expr}
    (phrase : Phrase rank tokens expression) : Reads rank tokens expression := by
  induction phrase with
  | number kind known =>
      intro inner outer
      exact .cons (by simp [PartialExpr.step, readOperand, kind, known]) .nil
  | name kind =>
      intro inner outer
      exact .cons (by simp [PartialExpr.step, readOperand, kind]) .nil
  | @parenthesized opening closing inside expression opens _ closes ih =>
      intro inner outer
      obtain ⟨level, operand, read, closed⟩ := ih (inner :: outer)
      have opened : (wanting inner outer).step opening = .next (wanting {} (inner :: outer)) := by
        simp [PartialExpr.step, readOperand, opens]
      have left : (holding level (inner :: outer) operand).step closing =
          .next (holding inner outer expression) := by
        simp [PartialExpr.step, readOperator, closes, closed, BinOp.ofKind?]
      exact .cons opened (read.append (.cons left .nil))
  | operand _ ih =>
      intro sum outer
      exact ⟨none, _, ih ⟨sum, none⟩ outer, rfl⟩
  | @times before after operator op left right first sign _ ihFirst ihSecond =>
      intro sum outer
      obtain ⟨product, operand, read, finished⟩ := ihFirst sum outer
      have pushed : Level.push ⟨sum, product⟩ operand op operator =
          ⟨sum, some ⟨left, op, operator⟩⟩ := by
        simp [Level.push, Level.factor, sign.isProduct_eq_true, finished]
      refine ⟨some ⟨left, op, operator⟩, right, ?_, rfl⟩
      exact read.append (.cons (step_holding_sign sign) (pushed ▸ ihSecond _ outer))
  | product _ ih =>
      intro outer
      obtain ⟨product, operand, read, finished⟩ := ih none outer
      exact ⟨_, operand, read, finished⟩
  | @plus before after operator op left right first sign _ ihFirst ihSecond =>
      intro outer
      obtain ⟨level, operand, read, closed⟩ := ihFirst outer
      obtain ⟨product, last, readLast, finished⟩ := ihSecond (some ⟨left, op, operator⟩) outer
      have pushed : level.push operand op operator = { sum := some ⟨left, op, operator⟩ } := by
        simp [Level.push, sign.isProduct_eq_false, closed]
      refine ⟨⟨some ⟨left, op, operator⟩, product⟩, last, ?_,
        congrArg (Expr.binary op operator left) finished⟩
      exact read.append (.cons (step_holding_sign sign) (pushed ▸ readLast))

end PartialExpr

end NumScript
