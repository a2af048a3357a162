import NumScript.Proofs.Reading.Attempts

set_option autoImplicit false

namespace NumScript

open Grammar

def Grammar.Viable (tokens : List Token) : Prop :=
  ∃ rest statement, Statement (tokens ++ rest) statement

def Grammar.ProperlyViable (tokens : List Token) : Prop :=
  ∃ rest statement, rest ≠ [] ∧ Statement (tokens ++ rest) statement

namespace SyntaxFault

-- The tokens that the report of a fault asks for; an invalid token is reported for itself.
def Names : SyntaxFault -> Token -> Prop
  | expectedName, token => token.kind = .identifier
  | expectedEquals, token => token.kind = .equals
  | expectedOpening, token => token.kind = .leftParen
  | expectedClosing, token => token.kind = .rightParen
  | expectedDeclarationEnd, token | expectedPrintEnd, token | expectedAssignmentEnd, token
  | expectedExpressionEnd, token => token.kind = .semicolon
  | expectedExpression, token => ∃ rest expression, Phrase .sum (token :: rest) expression
  | invalidNumber, _ | invalidTarget, _ => False

-- An invalid token is already read when it is blamed, an unexpected one is not.
def consumed : SyntaxFault -> Nat
  | invalidNumber | invalidTarget => 1
  | _ => 0

theorem exists_names {fault : SyntaxFault} (asks : "Expected ".toList <+: fault.message.toList) :
    ∃ token, fault.Names token := by
  cases fault with
  | invalidNumber | invalidTarget => simp [message] at asks
  | expectedName => exact ⟨⟨.identifier, "", 0⟩, rfl⟩
  | expectedEquals => exact ⟨⟨.equals, "", 0⟩, rfl⟩
  | expectedOpening => exact ⟨⟨.leftParen, "", 0⟩, rfl⟩
  | expectedClosing => exact ⟨⟨.rightParen, "", 0⟩, rfl⟩
  | expectedDeclarationEnd | expectedPrintEnd | expectedAssignmentEnd | expectedExpressionEnd =>
      exact ⟨⟨.semicolon, "", 0⟩, rfl⟩
  | expectedExpression =>
      exact ⟨⟨.identifier, "", 0⟩, [], _, .product (.operand (.name rfl))⟩

end SyntaxFault

namespace PartialExpr

theorem exists_closed (inner : Level) (outer : List Level) (operand : Expr) :
    ∃ tokens level value, (holding inner outer operand).LeadsTo tokens
      (holding level [] value) := by
  induction outer generalizing inner operand with
  | nil => exact ⟨[], inner, operand, .nil⟩
  | cons around outer ih =>
      obtain ⟨tokens, level, value, read⟩ := ih around (inner.close operand)
      exact ⟨⟨.rightParen, ")", 0⟩ :: tokens, level, value, .cons rfl read⟩

theorem exists_whole (reading : PartialExpr) :
    ∃ tokens level value, reading.LeadsTo tokens (holding level [] value) := by
  cases reading with
  | holding inner outer operand => exact exists_closed inner outer operand
  | wanting inner outer =>
      obtain ⟨tokens, level, value, read⟩ := exists_closed inner outer (.var "x" 0)
      exact ⟨⟨.identifier, "x", 0⟩ :: tokens, level, value, .cons rfl read⟩

theorem step_of_phrase {first : Token} {rest : List Token} {expression : Expr}
    (phrase : Phrase .sum (first :: rest) expression) (inner : Level) (outer : List Level) :
    ∃ next, (wanting inner outer).step first = .next next := by
  obtain ⟨level, operand, read, -⟩ := reads_of_phrase phrase []
  cases read with
  | cons stepped _ =>
      simp only [PartialExpr.step, readOperand] at stepped ⊢
      -- Whether an operand may begin with a token does not depend on what waits for the operand.
      split at stepped
      next kind =>
        split at stepped
        next => exact ⟨_, rfl⟩
        next => cases stepped
      next => exact ⟨_, rfl⟩
      next => exact ⟨_, rfl⟩
      next => cases stepped

theorem unreadable_of_step {reading : PartialExpr} {token : Token}
    (stepped : reading.step token = .invalidNumber) :
    token.kind = .number ∧ Numeral.read? token.text = none := by
  cases reading with
  | wanting inner outer =>
      simp only [PartialExpr.step, readOperand] at stepped
      split at stepped <;> try cases stepped
      next kind =>
        split at stepped <;> cases stepped
        next none => exact ⟨kind, none⟩
  | holding inner outer operand =>
      simp only [PartialExpr.step, readOperator] at stepped
      split at stepped
      next => cases stepped
      next =>
        cases outer with
        | nil => cases stepped
        | cons level outer =>
            dsimp only at stepped
            split at stepped <;> cases stepped

end PartialExpr

namespace PartialStmt

def Finishable (state : PartialStmt) : Prop :=
  ∃ before last next statement, state.LeadsTo before next ∧
    next.step last = .done statement

theorem Finishable.of_done {state : PartialStmt} {last : Token} {statement : Stmt}
    (finished : state.step last = .done statement) : Finishable state :=
  ⟨[], last, state, statement, .nil, finished⟩

theorem Finishable.of_leadsTo {state middle : PartialStmt} {tokens : List Token}
    (finishable : Finishable middle) (reads : state.LeadsTo tokens middle) :
    Finishable state := by
  obtain ⟨before, last, next, statement, onward, finished⟩ := finishable
  exact ⟨tokens ++ before, last, next, statement, reads.append onward, finished⟩

theorem finishable_printed (expression : Expr) (line : Nat) :
    Finishable (printed expression line) :=
  .of_done (rfl : (printed expression line).step ⟨.semicolon, ";", 0⟩ = _)

theorem finishable_inside (slot : Slot) (reading : PartialExpr) :
    Finishable (inside slot reading) := by
  obtain ⟨tokens, level, value, read⟩ := reading.exists_whole
  refine Finishable.of_leadsTo ?_ (leadsTo_inside read)
  cases slot with
  | argument line =>
      have closed : (inside (.argument line) (.holding level [] value)).step
          ⟨.rightParen, ")", 0⟩ = .next (printed (level.close value) line) := rfl
      exact (finishable_printed _ line).of_leadsTo (.cons closed .nil)
  | initializer name =>
      exact .of_done (rfl : (inside _ (.holding level [] value)).step ⟨.semicolon, ";", 0⟩ = _)
  | bare line =>
      exact .of_done (rfl : (inside _ (.holding level [] value)).step ⟨.semicolon, ";", 0⟩ = _)
  | assigned name line =>
      exact .of_done (rfl : (inside _ (.holding level [] value)).step ⟨.semicolon, ";", 0⟩ = _)

theorem finishable_named (name : Token) : Finishable (named name) :=
  (finishable_inside (.initializer name) .empty).of_leadsTo
    (.cons (rfl : (named name).step ⟨.equals, "=", 0⟩ = _) .nil)

theorem finishable (state : PartialStmt) : Finishable state := by
  cases state with
  | start =>
      exact (finishable_inside _ _).of_leadsTo
        (.cons (rfl : start.step ⟨.identifier, "x", 0⟩ = _) .nil)
  | declaring =>
      exact (finishable_named _).of_leadsTo
        (.cons (rfl : declaring.step ⟨.identifier, "x", 0⟩ = _) .nil)
  | named name => exact finishable_named name
  | printing line =>
      exact (finishable_inside _ _).of_leadsTo
        (.cons (rfl : (printing line).step ⟨.leftParen, "(", 0⟩ = _) .nil)
  | inside slot reading => exact finishable_inside slot reading
  | printed expression line => exact finishable_printed expression line

theorem properlyViable_of_leadsTo {tokens : List Token} {state : PartialStmt}
    (reads : start.LeadsTo tokens state) : ProperlyViable tokens := by
  obtain ⟨before, last, next, statement, onward, finished⟩ := state.finishable
  refine ⟨before ++ [last], statement, by simp, accepts_iff.1 ?_⟩
  exact ⟨tokens ++ before, last, next, by simp, reads.append onward, finished⟩

theorem viable_of_done {tokens : List Token} {state : PartialStmt} {token : Token}
    {statement : Stmt} (reads : start.LeadsTo tokens state)
    (finished : state.step token = .done statement) : Viable (tokens ++ [token]) := by
  refine ⟨[], statement, ?_⟩
  rw [List.append_nil]
  exact accepts_iff.1 ⟨tokens, token, state, rfl, reads, finished⟩

theorem not_viable_of_refused {tokens : List Token} {state : PartialStmt} {token : Token}
    (reads : start.LeadsTo tokens state)
    (refused : state.step token = .unexpected ∨ ∃ fault, state.step token = .invalid fault) :
    ¬ Viable (tokens ++ [token]) := by
  rintro ⟨more, statement, sentence⟩
  have parsed := Attempt.read_of_statement token sentence []
  rw [List.append_nil, List.append_assoc, Attempt.read_append token reads] at parsed
  rcases refused with unexpected | ⟨fault, invalid⟩
  · simp [Attempt.read, unexpected] at parsed
  · simp [Attempt.read, invalid] at parsed

theorem ofKind?_of_slot_names {slot : Slot} {token : Token} (named : slot.missing.Names token) :
    BinOp.ofKind? token.kind = none := by
  cases slot <;> simp only [Slot.missing, SyntaxFault.Names] at named <;> rw [named] <;> rfl

theorem afterExpression_of_names {slot : Slot} {token : Token} {expression : Expr}
    (named : slot.missing.Names token) :
    (∃ next, afterExpression slot expression token = .next next) ∨
      ∃ statement, afterExpression slot expression token = .done statement := by
  cases slot with
  | argument line =>
      have closes : token.kind = .rightParen := named
      exact .inl ⟨printed expression line, by simp [afterExpression, closes]⟩
  | initializer name =>
      have ends : token.kind = .semicolon := named
      exact .inr ⟨.declaration name.text expression name.line, by simp [afterExpression, ends]⟩
  | bare line =>
      have ends : token.kind = .semicolon := named
      exact .inr ⟨.evaluation expression line, by simp [afterExpression, ends]⟩
  | assigned name line =>
      have ends : token.kind = .semicolon := named
      exact .inr ⟨.assignment name expression line, by simp [afterExpression, ends]⟩

theorem step_of_names {state : PartialStmt} {token : Token} (named : state.missing.Names token) :
    (∃ next, state.step token = .next next) ∨ ∃ statement, state.step token = .done statement := by
  cases state with
  | start =>
      obtain ⟨rest, expression, phrase⟩ := named
      obtain ⟨next, stepped⟩ := PartialExpr.step_of_phrase phrase {} []
      rw [step_start_of_phrase phrase]
      left
      exact ⟨_, by rw [PartialStmt.step, readInside, PartialExpr.empty, stepped]⟩
  | declaring =>
      left
      exact ⟨_, if_pos named⟩
  | named name =>
      left
      exact ⟨_, if_pos named⟩
  | printing line =>
      left
      exact ⟨_, if_pos named⟩
  | printed expression line =>
      right
      exact ⟨_, if_pos named⟩
  | inside slot reading =>
      rcases reading with ⟨inner, outer⟩ | ⟨inner, outer, operand⟩
      · obtain ⟨rest, expression, phrase⟩ := named
        obtain ⟨next, stepped⟩ := PartialExpr.step_of_phrase phrase inner outer
        left
        exact ⟨_, by rw [PartialStmt.step, readInside, stepped]⟩
      · cases outer with
        | nil =>
            rw [step_holding_of_not_operator (ofKind?_of_slot_names named)]
            exact afterExpression_of_names named
        | cons level outer =>
            have closes : token.kind = .rightParen := named
            left
            refine ⟨inside slot (.holding level outer (inner.close operand)), ?_⟩
            simp [PartialStmt.step, readInside, PartialExpr.step, PartialExpr.readOperator, closes,
              BinOp.ofKind?]

theorem viable_of_names {tokens : List Token} {state : PartialStmt}
    (reads : start.LeadsTo tokens state) (token : Token)
    (named : state.missing.Names token) : Viable (tokens ++ [token]) := by
  rcases step_of_names named with ⟨next, stepped⟩ | ⟨statement, finished⟩
  · obtain ⟨rest, statement, -, sentence⟩ :=
      properlyViable_of_leadsTo (reads.append (.cons stepped .nil))
    exact ⟨rest, statement, sentence⟩
  · exact viable_of_done reads finished

theorem missing_consumed (state : PartialStmt) : state.missing.consumed = 0 := by
  rcases state with _ | _ | _ | _ | ⟨slot, reading⟩ | _
  case inside =>
    rcases reading with _ | ⟨inner, outer, operand⟩
    · rfl
    · cases outer <;> cases slot <;> rfl
  all_goals rfl

theorem invalid_of_readInside {slot : Slot} {reading : PartialExpr} {token : Token}
    {fault : SyntaxFault} (stepped : readInside slot reading token = .invalid fault) :
    (fault = .invalidNumber ∧ token.kind = .number ∧ Numeral.read? token.text = none) ∨
      fault = .invalidTarget ∧ token.kind = .equals := by
  unfold readInside at stepped
  split at stepped
  next => cases stepped
  next =>
    unfold afterExpression at stepped
    split at stepped <;> try cases stepped
    next kind =>
      split at stepped <;> cases stepped
      exact .inr ⟨rfl, kind⟩
  next => cases stepped
  next unreadable =>
    cases stepped
    exact .inl ⟨rfl, PartialExpr.unreadable_of_step unreadable⟩

theorem invalid_of_step {state : PartialStmt} {token : Token} {fault : SyntaxFault}
    (stepped : state.step token = .invalid fault) :
    (fault = .invalidNumber ∧ token.kind = .number ∧ Numeral.read? token.text = none) ∨
      fault = .invalidTarget ∧ token.kind = .equals := by
  cases state with
  | start =>
      simp only [PartialStmt.step] at stepped
      split at stepped
      next => cases stepped
      next => cases stepped
      next => exact invalid_of_readInside stepped
  | inside => exact invalid_of_readInside stepped
  | declaring | named | printing | printed =>
      simp only [PartialStmt.step] at stepped
      split at stepped <;> cases stepped

theorem invalid_consumed {state : PartialStmt} {token : Token} {fault : SyntaxFault}
    (stepped : state.step token = .invalid fault) :
    fault.consumed = 1 ∧ ∀ named, ¬ fault.Names named := by
  rcases invalid_of_step stepped with ⟨rfl, -⟩ | ⟨rfl, -⟩
  · exact ⟨rfl, fun _ => id⟩
  · exact ⟨rfl, fun _ => id⟩

end PartialStmt

def stream (tokens : List Token) : List Token :=
  body tokens ++ [closing tokens]

theorem closing_kind (tokens : List Token) : (closing tokens).kind = .endOfFile := by
  rw [closing]
  cases found : tokens.find? (fun token => token.kind = .endOfFile) with
  | none => rfl
  | some token => simpa using List.find?_some found

theorem slices_around (first before after : List Token) (blamed : Token) :
    (first ++ (before ++ blamed :: after))[first.length + before.length]? = some blamed ∧
    (first ++ (before ++ blamed :: after)).extract first.length (first.length + before.length) =
      before ∧
    (first ++ (before ++ blamed :: after)).extract first.length (first.length + before.length + 1) =
      before ++ [blamed] := by
  refine ⟨by simp, by simp [List.extract], ?_⟩
  simp [List.extract, Nat.add_assoc, List.take_append, List.take_of_length_le]

theorem correct_prefix_of_refusal {last blamed : Token} {tokens unread : List Token}
    {fault : SyntaxFault} (ends : last.kind = .endOfFile)
    (refusal : Attempt.Refusal last .start tokens fault blamed unread) :
    ∃ before after, tokens ++ [last] = before ++ blamed :: after ∧
      unread = tokens.drop (before.length + fault.consumed) ∧ ProperlyViable before ∧
      (blamed.kind = .endOfFile ∨ ¬ Viable (before ++ [blamed])) ∧
      ∀ named, fault.Names named → Viable (before ++ [named]) := by
  cases refusal with
  | @ended _ state reads =>
      refine ⟨tokens, [], rfl, ?_, PartialStmt.properlyViable_of_leadsTo reads, .inl ends,
        PartialStmt.viable_of_names reads⟩
      simp [state.missing_consumed]
  | @unexpected before rest state _ reads stepped =>
      refine ⟨before, rest ++ [last], by simp, ?_, PartialStmt.properlyViable_of_leadsTo reads,
        .inr (PartialStmt.not_viable_of_refused reads (.inl stepped)),
        PartialStmt.viable_of_names reads⟩
      simp [state.missing_consumed]
  | @invalid before _ state _ _ reads stepped =>
      obtain ⟨consumed, unnamed⟩ := PartialStmt.invalid_consumed stepped
      refine ⟨before, unread ++ [last], by simp, ?_, PartialStmt.properlyViable_of_leadsTo reads,
        .inr (PartialStmt.not_viable_of_refused reads (.inr ⟨fault, stepped⟩)), ?_⟩
      · simp [consumed]
      · intro named asked
        exact absurd asked (unnamed named)

theorem refused_at_earliest_token {tokens : List Token} {start : Nat} {attempt : Attempt}
    {error : SyntaxError} (made : (start, attempt) ∈ attemptsAt tokens)
    (recorded : attempt.error? = some error) :
    ∃ place blamed fault, start ≤ place ∧ (stream tokens)[place]? = some blamed ∧
      error = ⟨blamed.line, blamed.text, fault.message⟩ ∧
      attempt = .refused fault blamed ((body tokens).drop (place + fault.consumed)) ∧
      ProperlyViable ((stream tokens).extract start place) ∧
      (blamed.kind = .endOfFile ∨ ¬ Viable ((stream tokens).extract start (place + 1))) ∧
      ("Expected ".toList <+: error.message.toList → ∃ named, fault.Names named) ∧
      ∀ named, fault.Names named → Viable ((stream tokens).extract start place ++ [named]) := by
  obtain ⟨within, same⟩ := read_of_mem_attemptsAt made
  cases attempt with
  | parsed statement unread => cases recorded
  | refused fault blamed unread =>
      cases recorded
      obtain ⟨before, after, split, rfl, viable, wrong, names⟩ :=
        correct_prefix_of_refusal (closing_kind tokens) (Attempt.refusal_of_read same.symm)
      have shape : stream tokens = (body tokens).take start ++ (before ++ blamed :: after) := by
        rw [stream, ← split, ← List.append_assoc, List.take_append_drop]
      have slices := slices_around ((body tokens).take start) before after blamed
      rw [← shape, List.length_take_of_le within] at slices
      obtain ⟨found, upTo, through⟩ := slices
      refine ⟨start + before.length, blamed, fault, by omega, found, rfl, ?_, ?_, ?_,
        SyntaxFault.exists_names, ?_⟩
      · rw [List.drop_drop, Nat.add_assoc]
      · rwa [upTo]
      · rwa [through]
      · rwa [upTo]

def unfinishedSum : List Token :=
  [⟨.identifier, "y", 1⟩, ⟨.semicolon, ";", 1⟩, ⟨.leftParen, "(", 2⟩, ⟨.leftParen, "(", 2⟩,
    ⟨.identifier, "x", 2⟩, ⟨.plus, "+", 3⟩, ⟨.rightParen, ")", 4⟩, ⟨.semicolon, ";", 4⟩]

theorem unfinishedSum_refused_at_earliest_token :
    (2, Attempt.refused .expectedExpression ⟨.rightParen, ")", 4⟩ (unfinishedSum.drop 6)) ∈
      attemptsAt unfinishedSum ∧
    ProperlyViable ((stream unfinishedSum).extract 2 6) ∧
      ¬ Viable ((stream unfinishedSum).extract 2 7) := by
  have all : attemptsAt unfinishedSum =
      [(0, .parsed (.evaluation (.var "y" 1) 1) (unfinishedSum.drop 2)),
        (2, .refused .expectedExpression ⟨.rightParen, ")", 4⟩ (unfinishedSum.drop 6))] := by
    cbv
  have made : (2, Attempt.refused .expectedExpression ⟨.rightParen, ")", 4⟩
      (unfinishedSum.drop 6)) ∈ attemptsAt unfinishedSum := by
    rw [all]
    exact List.mem_cons_of_mem _ List.mem_cons_self
  obtain ⟨place, blamed, fault, -, -, -, same, viable, wrong, -⟩ :=
    refused_at_earliest_token made rfl
  obtain ⟨rfl, rfl, unread⟩ := Attempt.refused.inj same
  have here : place = 6 := by
    have lengths := congrArg List.length unread
    simp [unfinishedSum, body, SyntaxFault.consumed] at lengths
    omega
  subst here
  exact ⟨made, viable, wrong.resolve_left (by decide)⟩

end NumScript
