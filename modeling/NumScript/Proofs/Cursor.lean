import NumScript.Proofs.CorrectPrefix
import NumScript.Proofs.Reading.Sources

set_option autoImplicit false

/-!
# The cursor of a parse

A parse can be carried out with a cursor that moves over the tokens, each access to a token checked.
No access ever fails, every statement moves the cursor on, and what comes out is what `parse` makes
of the lists of unread tokens.
-/

namespace NumScript

def terminated (tokens : List Token) : List Token :=
  if tokens.getLast?.any (fun token => token.kind = .endOfFile) then tokens
  else tokens ++ [⟨.endOfFile, "", (tokens.getLast?.map Token.line).getD 1⟩]

theorem exists_terminated (tokens : List Token) :
    ∃ rest, terminated tokens = body tokens ++ closing tokens :: rest := by
  cases found : tokens.find? (fun token => token.kind = .endOfFile) with
  | none =>
      have inside : ∀ token ∈ tokens, token.kind ≠ .endOfFile := by simpa using found
      have unended : tokens.getLast?.any (fun token => token.kind = .endOfFile) = false := by
        cases final : tokens.getLast? with
        | none => rfl
        | some token => simpa using inside token (List.mem_of_getLast? final)
      refine ⟨[], ?_⟩
      simp [terminated, unended, body_eq_self inside, closing, found]
  | some last =>
      obtain ⟨kind, before, after, rfl, missing⟩ := List.find?_eq_some_iff_append.1 found
      have inside : ∀ token ∈ before, token.kind ≠ .endOfFile := by simpa using missing
      have ends : last.kind = .endOfFile := by simpa using kind
      rw [body_append_endOfFile after inside ends, closing_append_endOfFile after inside ends,
        terminated]
      split
      · exact ⟨after, rfl⟩
      · exact ⟨_, List.append_assoc _ _ _⟩

theorem parse_append_endOfFile (tokens rest : List Token) {last : Token}
    (kind : last.kind = .endOfFile) :
    parse (tokens ++ [last] ++ rest) = parse (tokens ++ [last]) := by
  have sameBody : body (tokens ++ [last] ++ rest) = body (tokens ++ [last]) := by
    simp [body, List.takeWhile_append, kind]
  have sameClosing : closing (tokens ++ [last] ++ rest) = closing (tokens ++ [last]) := by
    cases found : tokens.find? (fun token => token.kind = .endOfFile) <;>
      simp [closing, List.find?_append, found, kind]
  rw [parse, parse, sameBody, sameClosing]

theorem PartialStmt.step_endOfFile (state : PartialStmt) {token : Token}
    (kind : token.kind = .endOfFile) : state.step token = .unexpected := by
  cases state with
  | start | declaring | named | printing | printed =>
      simp [PartialStmt.step, readInside, PartialExpr.empty, PartialExpr.step,
        PartialExpr.readOperand, kind]
  | inside slot reading =>
      rcases reading with ⟨inner, outer⟩ | ⟨inner, _ | ⟨level, outer⟩, operand⟩
      · simp [PartialStmt.step, readInside, PartialExpr.step, PartialExpr.readOperand, kind]
      · rw [step_holding_of_not_operator (by rw [kind]; rfl)]
        cases slot <;> simp [afterExpression, kind]
      · simp [PartialStmt.step, readInside, PartialExpr.step, PartialExpr.readOperator, kind,
          BinOp.ofKind?]

inductive Phase where
  | between
  | reading (state : PartialStmt)
  -- Behind a refused statement, where one token is skipped whatever it is.
  | refused
  | skipping

/-- A point of a parse: what is done next, where the cursor stands, and what was made of the
statements attempted so far. -/
structure Point where
  phase : Phase
  position : Nat
  ends : List (Option Stmt × Option SyntaxError)

namespace Point

def start : Point where
  phase := .between
  position := 0
  ends := []

inductive Move where
  | to (next : Point)
  | finish
  | outside

def advance (point : Point) (token : Token) : Point :=
  if token.kind = .endOfFile then point else { point with position := point.position + 1 }

def parsed (point : Point) (statement : Stmt) : Point :=
  { point with phase := .between, ends := point.ends ++ [(some statement, none)] }

def refused (point : Point) (fault : SyntaxFault) (blamed : Token) : Point :=
  { point with
    phase := .refused
    ends := point.ends ++ [(none, some ⟨blamed.line, blamed.text, fault.message⟩)] }

def move (point : Point) (behind token : Token) : Move :=
  match point.phase with
  | .between =>
      if token.kind = .endOfFile then .finish else .to { point with phase := .reading .start }
  | .reading state =>
      match state.step token with
      | .next next => .to { point.advance token with phase := .reading next }
      | .done statement => .to ((point.advance token).parsed statement)
      | .unexpected => .to (point.refused state.missing token)
      | .invalid fault => .to ((point.advance token).refused fault token)
  | .refused => .to { point.advance token with phase := .skipping }
  | .skipping =>
      if token.kind = .endOfFile ∨ behind.kind = .semicolon ∨ token.kind.startsStatement then
        .to { point with phase := .between }
      else .to (point.advance token)

/-- One step of a parse, both accesses checked. At the first token nothing is behind the cursor. -/
def step (tokens : List Token) (point : Point) : Move :=
  match tokens[point.position - 1]?, tokens[point.position]? with
  | some behind, some token => point.move behind token
  | _, _ => .outside

def Leads (tokens : List Token) (point next : Point) : Prop :=
  point.step tokens = .to next

def Reached (tokens : List Token) : Point -> Prop :=
  Relation.ReflTransGen (Leads tokens) start

/-- Leads on to the first point that is in front of a statement again. -/
inductive Returns (tokens : List Token) : Point -> Point -> Prop where
  | ended {point : Point} (phase : point.phase = .between) : Returns tokens point point
  | onward {point middle next : Point} (busy : point.phase ≠ .between)
      (leads : Leads tokens point middle) (returns : Returns tokens middle next) :
      Returns tokens point next

def Calls (tokens : List Token) (point next : Point) : Prop :=
  point.phase = .between ∧ ∃ begun, Leads tokens point begun ∧ Returns tokens begun next

def result (point : Point) : Except (List SyntaxError) Program :=
  match point.ends.filterMap Prod.snd with
  | [] => .ok (point.ends.filterMap Prod.fst)
  | errors => .error errors

@[simp] theorem phase_advance (point : Point) (token : Token) :
    (point.advance token).phase = point.phase := by
  unfold advance
  split <;> rfl

@[simp] theorem ends_advance (point : Point) (token : Token) :
    (point.advance token).ends = point.ends := by
  unfold advance
  split <;> rfl

section

variable {tokens : List Token} {point next other : Point}

theorem Returns.unique (returns : Returns tokens point next)
    (again : Returns tokens point other) : other = next := by
  induction returns with
  | ended phase =>
      cases again with
      | ended => rfl
      | onward busy => exact absurd phase busy
  | onward busy leads _ ih =>
      cases again with
      | ended phase => exact absurd phase busy
      | onward _ leadsAgain again =>
          obtain rfl := Move.to.inj (leads.symm.trans leadsAgain)
          exact ih again

theorem Calls.unique (calls : Calls tokens point next) (again : Calls tokens point other) :
    other = next := by
  obtain ⟨-, begun, leads, returns⟩ := calls
  obtain ⟨-, begunAgain, leadsAgain, returnsAgain⟩ := again
  obtain rfl := Move.to.inj (leads.symm.trans leadsAgain)
  exact returns.unique returnsAgain

end

/-- The cursor faces the given unread tokens, and the end of the file behind them. -/
structure Faces (tokens : List Token) (point : Point) (unread : List Token) (last : Token)
    (rest : List Token) : Prop where
  ahead : tokens.drop point.position = unread ++ last :: rest
  plain : ∀ token ∈ unread, token.kind ≠ .endOfFile
  kind : last.kind = .endOfFile

section

variable {tokens unread more rest : List Token} {point next : Point} {token last : Token}

theorem getElem?_of_drop (ahead : tokens.drop point.position = token :: more) :
    tokens[point.position]? = some token := by
  rw [← List.head?_drop, ahead, List.head?_cons]

theorem step_of_drop (ahead : tokens.drop point.position = token :: more) :
    ∃ behind, tokens[point.position - 1]? = some behind ∧
      point.step tokens = point.move behind token := by
  have here := getElem?_of_drop ahead
  have inside : point.position < tokens.length := (List.getElem?_eq_some_iff.1 here).1
  have before : tokens[point.position - 1]? = some tokens[point.position - 1] :=
    List.getElem?_eq_getElem (by omega)
  exact ⟨_, before, by rw [step, before, here]⟩

theorem leads_of_move (ahead : tokens.drop point.position = token :: more)
    (moves : ∀ behind, tokens[point.position - 1]? = some behind →
      point.move behind token = .to next) : Leads tokens point next := by
  obtain ⟨behind, before, same⟩ := step_of_drop ahead
  rw [Leads, same]
  exact moves behind before

theorem Faces.stay (faces : Faces tokens point unread last rest)
    (same : next.position = point.position) : Faces tokens next unread last rest where
  ahead := by rw [same, faces.ahead]
  plain := faces.plain
  kind := faces.kind

theorem Faces.position_advance (faces : Faces tokens point (token :: unread) last rest) :
    (point.advance token).position = point.position + 1 := by
  rw [advance, if_neg (faces.plain token List.mem_cons_self)]

theorem Faces.advance (faces : Faces tokens point (token :: unread) last rest) :
    Faces tokens (point.advance token) unread last rest where
  ahead := by
    rw [faces.position_advance, ← List.tail_drop, faces.ahead, List.cons_append, List.tail_cons]
  plain := (List.forall_mem_cons.1 faces.plain).2
  kind := faces.kind

theorem Faces.past (faces : Faces tokens point (token :: unread) last rest) :
    tokens[(point.advance token).position - 1]? = some token := by
  rw [faces.position_advance, Nat.add_sub_cancel]
  exact getElem?_of_drop faces.ahead

end

section

variable {tokens unread rest : List Token} {point : Point} {last : Token}

-- Behind a skipped token the cursor moves on to where `resume` goes from that token.
theorem exists_returns_of_skipping {behind : Token}
    (faces : Faces tokens point unread last rest) (skipping : point.phase = .skipping)
    (past : tokens[point.position - 1]? = some behind) :
    ∃ next, Returns tokens point next ∧ next.ends = point.ends ∧
      Faces tokens next (Attempt.resume (behind :: unread)) last rest := by
  induction unread generalizing point behind with
  | nil =>
      have leads : Leads tokens point { point with phase := .between } :=
        leads_of_move faces.ahead (by simp [move, skipping, faces.kind])
      refine ⟨_, .onward (by simp [skipping]) leads (.ended rfl), rfl, ?_⟩
      rw [Attempt.resume, Attempt.resume, ite_self]
      exact faces.stay rfl
  | cons token unread ih =>
      have plain := faces.plain token List.mem_cons_self
      rw [Attempt.resume]
      split
      next stops =>
        have leads : Leads tokens point { point with phase := .between } := by
          refine leads_of_move faces.ahead ?_
          intro other before
          obtain rfl := Option.some.inj (past.symm.trans before)
          simp only [move, skipping]
          exact if_pos (.inr stops)
        exact ⟨_, .onward (by simp [skipping]) leads (.ended rfl), rfl, faces.stay rfl⟩
      next onward =>
        have leads : Leads tokens point (point.advance token) := by
          refine leads_of_move faces.ahead ?_
          intro other before
          obtain rfl := Option.some.inj (past.symm.trans before)
          simp only [move, skipping]
          exact if_neg (not_or.2 ⟨plain, onward⟩)
        obtain ⟨next, returns, same, facing⟩ :=
          ih faces.advance (by simpa using skipping) faces.past
        exact ⟨next, .onward (by simp [skipping]) leads returns, by simpa using same, facing⟩

theorem exists_returns_of_refused (faces : Faces tokens point unread last rest)
    (refused : point.phase = .refused) :
    ∃ next, Returns tokens point next ∧ next.ends = point.ends ∧
      Faces tokens next (Attempt.resume unread) last rest := by
  have busy : point.phase ≠ .between := by simp [refused]
  cases unread with
  | nil =>
      have leads : Leads tokens point { point.advance last with phase := .skipping } :=
        leads_of_move faces.ahead (by simp [move, refused])
      have moved : Faces tokens { point.advance last with phase := .skipping } [] last rest :=
        faces.stay (by simp [Point.advance, faces.kind])
      obtain ⟨behind, past, -⟩ := step_of_drop moved.ahead
      obtain ⟨next, returns, same, facing⟩ := exists_returns_of_skipping moved rfl past
      refine ⟨next, .onward busy leads returns, by simpa using same, ?_⟩
      simpa [Attempt.resume] using facing
  | cons token unread =>
      have leads : Leads tokens point { point.advance token with phase := .skipping } :=
        leads_of_move faces.ahead (by simp [move, refused])
      have moved : Faces tokens { point.advance token with phase := .skipping } unread last rest :=
        faces.advance.stay rfl
      obtain ⟨next, returns, same, facing⟩ := exists_returns_of_skipping moved rfl faces.past
      exact ⟨next, .onward busy leads returns, by simpa using same, facing⟩

theorem exists_returns_of_reading {state : PartialStmt}
    (faces : Faces tokens point unread last rest) (reading : point.phase = .reading state) :
    ∃ next, Returns tokens point next ∧
      next.ends = point.ends ++ [(Attempt.read last state unread).verdict] ∧
      Faces tokens next (Attempt.read last state unread).remaining last rest := by
  induction unread generalizing point state with
  | nil =>
      have leads : Leads tokens point (point.refused state.missing last) :=
        leads_of_move faces.ahead (by simp [move, reading, state.step_endOfFile faces.kind])
      have moved : Faces tokens (point.refused state.missing last) [] last rest := faces.stay rfl
      obtain ⟨next, returns, same, facing⟩ := exists_returns_of_refused moved rfl
      exact ⟨next, .onward (by simp [reading]) leads returns, same, facing⟩
  | cons token unread ih =>
      have busy : point.phase ≠ .between := by simp [reading]
      rw [Attempt.read]
      cases taken : state.step token with
      | next onward =>
          have leads : Leads tokens point { point.advance token with phase := .reading onward } :=
            leads_of_move faces.ahead (by simp [move, reading, taken])
          have moved : Faces tokens { point.advance token with phase := .reading onward } unread
              last rest :=
            faces.advance.stay rfl
          obtain ⟨next, returns, same, facing⟩ := ih moved rfl
          exact ⟨next, .onward busy leads returns, by simpa using same, facing⟩
      | done statement =>
          have leads : Leads tokens point ((point.advance token).parsed statement) :=
            leads_of_move faces.ahead (by simp [move, reading, taken])
          refine ⟨_, .onward busy leads (.ended rfl), ?_, faces.advance.stay rfl⟩
          simp [parsed, Attempt.verdict, Attempt.statement?, Attempt.error?]
      | unexpected =>
          have leads : Leads tokens point (point.refused state.missing token) :=
            leads_of_move faces.ahead (by simp [move, reading, taken])
          have moved : Faces tokens (point.refused state.missing token) (token :: unread) last
              rest :=
            faces.stay rfl
          obtain ⟨next, returns, same, facing⟩ := exists_returns_of_refused moved rfl
          exact ⟨next, .onward busy leads returns, same, facing⟩
      | invalid fault =>
          have leads : Leads tokens point ((point.advance token).refused fault token) :=
            leads_of_move faces.ahead (by simp [move, reading, taken])
          have moved : Faces tokens ((point.advance token).refused fault token) unread last rest :=
            faces.advance.stay rfl
          obtain ⟨next, returns, same, facing⟩ := exists_returns_of_refused moved rfl
          refine ⟨next, .onward busy leads returns, ?_, facing⟩
          simpa [Point.refused, Attempt.verdict, Attempt.statement?, Attempt.error?] using same

-- The attempt that a call makes uses up at least one token, so the cursor has moved on behind it.
theorem exists_calls_of_faces {token : Token}
    (faces : Faces tokens point (token :: unread) last rest) (phase : point.phase = .between) :
    ∃ next, Calls tokens point next ∧ point.position < next.position ∧
      next.ends = point.ends ++ [(Attempt.read last .start (token :: unread)).verdict] ∧
      Faces tokens next (Attempt.read last .start (token :: unread)).remaining last rest := by
  have plain := faces.plain token List.mem_cons_self
  have leads : Leads tokens point { point with phase := .reading .start } :=
    leads_of_move faces.ahead (by simp [move, phase, plain])
  have moved : Faces tokens { point with phase := .reading .start } (token :: unread) last rest :=
    faces.stay rfl
  obtain ⟨next, returns, same, facing⟩ := exists_returns_of_reading moved rfl
  refine ⟨next, ⟨phase, _, leads, returns⟩, ?_, same, facing⟩
  have shorter := Attempt.length_remaining_read last .start token unread
  have before := congrArg List.length faces.ahead
  have after := congrArg List.length facing.ahead
  simp only [List.length_drop, List.length_append, List.length_cons] at before after
  omega

theorem phase_of_returns {next : Point} (returns : Returns tokens point next) :
    next.phase = .between := by
  induction returns with
  | ended phase => exact phase
  | onward _ _ _ ih => exact ih

theorem exists_calls_to_end (faces : Faces tokens point unread last rest)
    (phase : point.phase = .between) :
    ∃ points, (point :: points).IsChain (Calls tokens) ∧ points.length ≤ unread.length ∧
      (points.getLastD point).step tokens = .finish ∧
      (points.getLastD point).ends =
        point.ends ++ (attempts last unread).map Attempt.verdict := by
  induction unread using attempts.induct last generalizing point with
  | case1 =>
      obtain ⟨behind, -, same⟩ := step_of_drop faces.ahead
      refine ⟨[], .singleton _, Nat.le_refl _, ?_, by simp [attempts_nil]⟩
      rw [List.getLastD_nil, same]
      simp [move, phase, faces.kind]
  | case2 token unread =>
      rename_i shorter ih
      obtain ⟨next, calls, -, same, facing⟩ := exists_calls_of_faces faces phase
      obtain ⟨-, begun, -, returns⟩ := id calls
      obtain ⟨points, chain, bound, finished, ends⟩ := ih facing (phase_of_returns returns)
      refine ⟨next :: points, chain.cons_cons calls, ?_, ?_, ?_⟩
      · exact Nat.succ_le_succ (bound.trans shorter)
      · rw [List.getLastD_cons]
        exact finished
      · rw [List.getLastD_cons, ends, same, attempts_cons, List.map_cons, List.append_assoc]
        rfl

end

section

variable {tokens : List Token} {point next : Point} {behind token : Token}

theorem advance_position (point : Point) (token : Token) :
    (point.advance token).position = point.position ∨
      (point.advance token).position = point.position + 1 ∧ token.kind ≠ .endOfFile := by
  unfold advance
  split
  next => exact .inl rfl
  next plain => exact .inr ⟨rfl, plain⟩

theorem position_of_move (moves : point.move behind token = .to next) :
    next.position = point.position ∨ next.position = (point.advance token).position := by
  unfold move at moves
  split at moves
  next =>
    split at moves <;> cases moves
    exact .inl rfl
  next =>
    split at moves <;> cases moves
    · exact .inr rfl
    · exact .inr rfl
    · exact .inl rfl
    · exact .inr rfl
  next =>
    cases moves
    exact .inr rfl
  next =>
    split at moves <;> cases moves
    · exact .inl rfl
    · exact .inr rfl

theorem move_ne_outside : point.move behind token ≠ .outside := by
  unfold move
  split
  next => split <;> simp
  next => split <;> simp
  next => simp
  next => split <;> simp

theorem position_of_leads (leads : Leads tokens point next) :
    next.position = point.position ∨ next.position = point.position + 1 ∧
      ∃ token, tokens[point.position]? = some token ∧ token.kind ≠ .endOfFile := by
  unfold Leads step at leads
  split at leads
  next behind token _ here =>
    rcases position_of_move leads with stays | moves
    · exact .inl stays
    · rw [moves]
      exact (point.advance_position token).imp_right (fun on => ⟨on.1, token, here, on.2⟩)
  next => cases leads

end

section

variable {before rest : List Token} {point : Point} {last : Token}

-- The end of the file stops the cursor, whatever stands behind it.
theorem position_le_of_reached (kind : last.kind = .endOfFile)
    (reached : Reached (before ++ last :: rest) point) : point.position ≤ before.length := by
  induction reached with
  | refl => exact Nat.zero_le _
  | @tail point next _ leads ih =>
      rcases position_of_leads leads with stays | ⟨moves, token, here, plain⟩
      · rw [stays]
        exact ih
      · have other : point.position ≠ before.length := by
          intro same
          obtain rfl : last = token := by simpa [same] using here
          exact plain kind
        omega

theorem faces_of_le (kind : last.kind = .endOfFile)
    (inside : ∀ token ∈ before, token.kind ≠ .endOfFile)
    (within : point.position ≤ before.length) :
    Faces (before ++ last :: rest) point (before.drop point.position) last rest where
  ahead := List.drop_append_of_le_length within
  plain := fun token member => inside token (List.mem_of_mem_drop member)
  kind := kind

end

end Point

theorem Point.result_eq_parse {tokens : List Token} {point : Point}
    (ends : point.ends = verdicts tokens) : point.result = parse tokens := by
  obtain ⟨errors, statements⟩ := filterMap_verdicts tokens
  rewrite [result, parse, ends, errors, statements]
  rfl

theorem cursor_never_leaves_tokens (tokens : List Token) :
    ∃ first, (terminated tokens).findIdx? (fun token => token.kind = .endOfFile) = some first ∧
      (∀ point, Point.Reached (terminated tokens) point →
        point.position ≤ first ∧
        (∃ token, (terminated tokens)[point.position]? = some token) ∧
        (∃ behind, (terminated tokens)[point.position - 1]? = some behind) ∧
        point.step (terminated tokens) ≠ .outside ∧
        (point.phase = .between → point.position ≠ first →
          ∃ next, Point.Calls (terminated tokens) point next ∧
            point.position < next.position ∧
            (∃ verdict, next.ends = point.ends ++ [verdict]) ∧
            ∀ other, Point.Calls (terminated tokens) point other → other = next)) ∧
      (∃ points, (Point.start :: points).IsChain (Point.Calls (terminated tokens)) ∧
        points.length ≤ first ∧
        (points.getLastD Point.start).step (terminated tokens) = .finish ∧
        (points.getLastD Point.start).ends = verdicts tokens ∧
        (points.getLastD Point.start).result = parse tokens) ∧
      ∀ last rest, last.kind = .endOfFile →
        parse (tokens ++ [last] ++ rest) = parse (tokens ++ [last]) := by
  obtain ⟨rest, whole⟩ := exists_terminated tokens
  have kind := closing_kind tokens
  have inside : ∀ token ∈ body tokens, token.kind ≠ .endOfFile := fun _ => kind_ne_of_mem_body
  rw [whole]
  refine ⟨(body tokens).length, ?_, ?_, ?_, fun last more => parse_append_endOfFile tokens more⟩
  · have missing := List.findIdx?_eq_none_iff.2 (fun token member =>
      decide_eq_false (inside token member))
    rw [List.findIdx?_append, missing]
    simp [List.findIdx?_cons, kind]
  · intro point reached
    have within := Point.position_le_of_reached kind reached
    have faces : Point.Faces (body tokens ++ closing tokens :: rest) point
        ((body tokens).drop point.position) (closing tokens) rest :=
      Point.faces_of_le kind inside within
    have nonempty : (body tokens).drop point.position ++ closing tokens :: rest ≠ [] := by simp
    obtain ⟨token, more, split⟩ := List.exists_cons_of_ne_nil nonempty
    have ahead := faces.ahead.trans split
    obtain ⟨behind, before, same⟩ := Point.step_of_drop ahead
    refine ⟨within, ⟨token, Point.getElem?_of_drop ahead⟩, ⟨behind, before⟩, ?_, ?_⟩
    · rw [same]
      exact Point.move_ne_outside
    · intro phase more
      rw [List.drop_eq_getElem_cons (by omega)] at faces
      obtain ⟨next, calls, further, ends, -⟩ := Point.exists_calls_of_faces faces phase
      exact ⟨next, calls, further, ⟨_, ends⟩, fun other again => calls.unique again⟩
  · have faces : Point.Faces (body tokens ++ closing tokens :: rest) Point.start (body tokens)
        (closing tokens) rest :=
      Point.faces_of_le kind inside (Nat.zero_le _)
    obtain ⟨points, chain, bound, finished, ends⟩ := Point.exists_calls_to_end faces rfl
    exact ⟨points, chain, bound, finished, ends, Point.result_eq_parse ends⟩

end NumScript
