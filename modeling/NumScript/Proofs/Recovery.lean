import NumScript.Proofs.CorrectPrefix
import NumScript.Proofs.SemicolonIsolation

set_option autoImplicit false

namespace NumScript

/-- Where a statement may be expected: at the end, at a keyword, or right after a semicolon. -/
def Boundary (tokens : List Token) (index : Nat) : Prop :=
  index = tokens.length ∨
    (∃ token, tokens[index]? = some token ∧ token.kind.startsStatement) ∨
    ∃ before token, index = before + 1 ∧ tokens[before]? = some token ∧ token.kind = .semicolon

theorem boundary_append_iff (before tokens : List Token) {index : Nat} (inside : 0 < index) :
    Boundary (before ++ tokens) (before.length + index) ↔ Boundary tokens index := by
  obtain ⟨previous, rfl⟩ := Nat.exists_eq_add_one.2 inside
  have shifted (other : Nat) : before.length + (previous + 1) = other + 1 ↔
      other = before.length + previous := by omega
  simp [Boundary, shifted, List.getElem?_append_right]

theorem boundary_one_iff {token : Token} {rest : List Token} (more : rest ≠ []) :
    Boundary (token :: rest) 1 ↔ token.kind = .semicolon ∨ Attempt.atStatement rest := by
  cases rest with
  | nil => contradiction
  | cons second rest => simp [Boundary, Attempt.atStatement, or_comm]

namespace Attempt

theorem resume_isLeast (token : Token) (rest : List Token) :
    ∃ index, resume (token :: rest) = (token :: rest).drop index ∧
      IsLeast {later | 0 < later ∧ Boundary (token :: rest) later} index := by
  induction rest generalizing token with
  | nil =>
      refine ⟨1, by simp [resume], ⟨Nat.one_pos, .inl rfl⟩, ?_⟩
      intro later boundary
      exact boundary.1
  | cons second rest ih =>
      rw [resume]
      split
      next stops =>
        refine ⟨1, rfl, ⟨Nat.one_pos, (boundary_one_iff (by simp)).2 stops⟩, ?_⟩
        intro later boundary
        exact boundary.1
      next onward =>
        obtain ⟨index, same, ⟨positive, boundary⟩, least⟩ := ih second
        have shift := @boundary_append_iff [token] (second :: rest)
        refine ⟨1 + index, ?_, ⟨by omega, (shift positive).2 boundary⟩, ?_⟩
        · rw [same, Nat.add_comm, List.drop_succ_cons]
        · rintro later ⟨after, there⟩
          obtain ⟨later, rfl⟩ := Nat.exists_eq_add_of_le after
          rcases Nat.eq_zero_or_pos later with rfl | further
          · exact absurd ((boundary_one_iff (by simp)).1 there) onward
          · have bound := least ⟨further, (shift further).1 there⟩
            omega

theorem resume_drop_isLeast {tokens : List Token} {cursor : Nat} (inside : cursor < tokens.length) :
    IsLeast {index | cursor < index ∧ Boundary tokens index}
      (tokens.length - (resume (tokens.drop cursor)).length) := by
  obtain ⟨index, same, ⟨positive, boundary⟩, least⟩ :=
    resume_isLeast tokens[cursor] (tokens.drop (cursor + 1))
  rw [← List.drop_eq_getElem_cons inside] at same boundary least
  have shift {later : Nat} (further : 0 < later) :
      Boundary tokens (cursor + later) ↔ Boundary (tokens.drop cursor) later := by
    have moved := boundary_append_iff (tokens.take cursor) (tokens.drop cursor) further
    rwa [List.take_append_drop, List.length_take_of_le inside.le] at moved
  have bound : index ≤ (tokens.drop cursor).length :=
    least ⟨by rw [List.length_drop]; omega, .inl rfl⟩
  have here : tokens.length - (resume (tokens.drop cursor)).length = cursor + index := by
    rw [same]
    simp only [List.length_drop] at bound ⊢
    omega
  rw [here]
  refine ⟨⟨by omega, (shift positive).2 boundary⟩, ?_⟩
  rintro later ⟨after, there⟩
  obtain ⟨later, rfl⟩ := Nat.exists_eq_add_of_le after.le
  have further : 0 < later := by omega
  exact Nat.add_le_add_left (least ⟨further, (shift further).1 there⟩) cursor

end Attempt

theorem attemptsOn_nil (last : Token) : attemptsOn last [] = [] := by
  rw [attemptsOn, attempts_nil]
  rfl

theorem attemptsOn_cons (last token : Token) (rest : List Token) :
    attemptsOn last (token :: rest) =
      (token :: rest, Attempt.read last .start (token :: rest)) ::
        attemptsOn last (Attempt.read last .start (token :: rest)).remaining := by
  rw [attemptsOn, attempts_cons]
  rfl

theorem attemptsOn_eq_append {last : Token} {tokens unread : List Token} {attempt : Attempt}
    {before after : List (List Token × Attempt)}
    (made : attemptsOn last tokens = before ++ (unread, attempt) :: after) :
    after = attemptsOn last attempt.remaining := by
  revert before
  fun_induction attempts last tokens with
  | case1 => simp [attemptsOn_nil]
  | case2 token rest =>
      rename_i ih
      intro before made
      rw [attemptsOn_cons] at made
      cases before with
      | nil =>
          obtain ⟨same, rfl⟩ := List.cons.inj made
          rw [← (Prod.mk.inj same).2]
      | cons first before =>
          rw [List.cons_append, List.cons.injEq] at made
          exact ih made.2

def nextStart (tokens : List Token) (after : List (Nat × Attempt)) : Nat :=
  (after.map Prod.fst).headD (body tokens).length

theorem nextStart_of_attemptsAt {tokens : List Token} {start : Nat} {attempt : Attempt}
    {before after : List (Nat × Attempt)}
    (made : attemptsAt tokens = before ++ (start, attempt) :: after) :
    nextStart tokens after = (body tokens).length - attempt.remaining.length ∧
      (after = [] ↔ attempt.remaining = []) := by
  obtain ⟨first, second, whole, -, behind⟩ := List.map_eq_append_iff.1 made
  obtain ⟨⟨unread, current⟩, others, rfl, same, rfl⟩ := List.map_eq_cons_iff.1 behind
  cases same
  rw [attemptsOn_eq_append whole]
  cases attempt.remaining with
  | nil => simp [attemptsOn_nil, nextStart]
  | cons token rest => simp [attemptsOn_cons, nextStart]

theorem SyntaxFault.consumed_le_one (fault : SyntaxFault) : fault.consumed ≤ 1 := by
  cases fault <;> simp [consumed]

theorem Attempt.Refusal.kind_of_consumed {last blamed : Token} {tokens unread : List Token}
    {fault : SyntaxFault} {state : PartialStmt}
    (refusal : Refusal last state tokens fault blamed unread) (consumed : fault.consumed = 1) :
    blamed.kind = .number ∨ blamed.kind = .equals := by
  cases refusal with
  | ended => simp [PartialStmt.missing_consumed] at consumed
  | unexpected => simp [PartialStmt.missing_consumed] at consumed
  | invalid _ stepped =>
      rcases PartialStmt.invalid_of_step stepped with ⟨-, kind, -⟩ | ⟨-, kind⟩
      · exact .inl kind
      · exact .inr kind

def Attempt.place? (tokens : List Token) : Attempt -> Option Nat
  | parsed _ _ => none
  | refused fault _ unread => some ((body tokens).length - unread.length - fault.consumed)

structure Blames (tokens : List Token) (start place : Nat) (fault : SyntaxFault) (blamed : Token)
    (unread : List Token) : Prop where
  begun : start ≤ place
  here : (stream tokens)[place]? = some blamed
  unread : unread = (body tokens).drop (place + fault.consumed)
  within : place + fault.consumed ≤ (body tokens).length
  kind : fault.consumed = 1 → blamed.kind = .number ∨ blamed.kind = .equals

theorem exists_blames {tokens unread : List Token} {start : Nat} {fault : SyntaxFault}
    {blamed : Token} (made : (start, .refused fault blamed unread) ∈ attemptsAt tokens) :
    ∃ place, Attempt.place? tokens (.refused fault blamed unread) = some place ∧
      Blames tokens start place fault blamed unread := by
  obtain ⟨within, same⟩ := read_of_mem_attemptsAt made
  have refusal := Attempt.refusal_of_read same.symm
  obtain ⟨before, after, split, rest, -⟩ :=
    correct_prefix_of_refusal (closing_kind tokens) refusal
  have shape : stream tokens = (body tokens).take start ++ (before ++ blamed :: after) := by
    rw [stream, ← split, ← List.append_assoc, List.take_append_drop]
  have found := (slices_around ((body tokens).take start) before after blamed).1
  rw [← shape, List.length_take_of_le within] at found
  have single := fault.consumed_le_one
  have bound : start + before.length + fault.consumed ≤ (body tokens).length := by
    have inside : start + before.length < (stream tokens).length :=
      (List.getElem?_eq_some_iff.1 found).1
    rw [stream, List.length_append, List.length_singleton] at inside
    by_contra beyond
    -- The end of the file is never read, so it is not blamed after it was read.
    have final : start + before.length = (body tokens).length := by omega
    have kinds := refusal.kind_of_consumed (by omega)
    rw [stream, final, List.getElem?_concat_length, Option.some.injEq] at found
    simp [← found, closing_kind] at kinds
  have left : unread = (body tokens).drop (start + before.length + fault.consumed) := by
    rw [rest, List.drop_drop, Nat.add_assoc]
  refine ⟨start + before.length, ?_, Nat.le_add_right _ _, found, left, bound,
    refusal.kind_of_consumed⟩
  simp only [Attempt.place?, left, List.length_drop, Option.some.injEq]
  omega

/-- A keyword that starts a statement stands right behind a blamed token that was already read. -/
def SkipsKeyword (tokens : List Token) (fault : SyntaxFault) (place : Nat) : Prop :=
  fault.consumed = 1 ∧
    ∃ token, (body tokens)[place + 1]? = some token ∧ token.kind.startsStatement

namespace Blames

variable {tokens unread : List Token} {start place : Nat} {fault : SyntaxFault} {blamed : Token}

theorem boundary_iff (blames : Blames tokens start place fault blamed unread)
    (consumed : fault.consumed = 1) (inside : place + 1 < (body tokens).length) :
    Boundary (body tokens) (place + 1) ↔ SkipsKeyword tokens fault place := by
  have here : (body tokens)[place]? = some blamed := by
    rw [← blames.here, stream, List.getElem?_append_left (by omega)]
  have other : blamed.kind ≠ .semicolon := by
    rcases blames.kind consumed with kind | kind <;> simp [kind]
  simp [Boundary, SkipsKeyword, consumed, here, other, inside.ne]

theorem resumed_isLeast (blames : Blames tokens start place fault blamed unread)
    (inside : place + fault.consumed < (body tokens).length) :
    IsLeast {index | place + fault.consumed < index ∧ Boundary (body tokens) index}
      ((body tokens).length - (Attempt.resume unread).length) := by
  rw [blames.unread]
  exact Attempt.resume_drop_isLeast inside

theorem resumed_isLeast_iff (blames : Blames tokens start place fault blamed unread)
    (inside : place < (body tokens).length) :
    IsLeast {index | place < index ∧ Boundary (body tokens) index}
        ((body tokens).length - (Attempt.resume unread).length) ↔
      ¬ SkipsKeyword tokens fault place := by
  have within := blames.within
  have single := fault.consumed_le_one
  rcases Nat.lt_or_ge (place + fault.consumed) (body tokens).length with further | ended
  · have least := blames.resumed_isLeast further
    rcases Nat.le_one_iff_eq_zero_or_eq_one.1 single with none | one
    · rw [none, Nat.add_zero] at least
      exact iff_of_true least (fun skips => absurd skips.1 (by omega))
    · have boundary := blames.boundary_iff one (by omega)
      rw [one] at least
      rw [← boundary]
      constructor
      · intro documented there
        have early := documented.2 ⟨Nat.lt_succ_self place, there⟩
        have late := least.1.1
        omega
      · intro plain
        refine ⟨⟨Nat.lt_of_succ_lt least.1.1, least.1.2⟩, ?_⟩
        rintro index ⟨after, there⟩
        have behind : place + 1 ≠ index := by
          rintro rfl
          exact plain there
        exact least.2 ⟨by omega, there⟩
  · have final : place + fault.consumed = (body tokens).length := by omega
    rw [blames.unread, final, List.drop_length]
    constructor
    · rintro - ⟨-, token, here, -⟩
      have bound := (List.getElem?_eq_some_iff.1 here).1
      omega
    · intro
      refine ⟨⟨by simpa [Attempt.resume] using inside, .inl rfl⟩, ?_⟩
      rintro index ⟨after, -⟩
      simp only [Attempt.resume, List.length_nil]
      omega

end Blames

theorem recovery_restarts_exact {tokens : List Token} {before after : List (Nat × Attempt)}
    {start place : Nat} {attempt : Attempt}
    (made : attemptsAt tokens = before ++ (start, attempt) :: after)
    (blames : attempt.place? tokens = some place) :
    ∃ fault blamed, start ≤ place ∧ (stream tokens)[place]? = some blamed ∧
      attempt = .refused fault blamed ((body tokens).drop (place + fault.consumed)) ∧
      attempt.error? = some ⟨blamed.line, blamed.text, fault.message⟩ ∧
      (after = [] ↔ nextStart tokens after = (body tokens).length) ∧
      (place = (body tokens).length → after = []) ∧
      (place < (body tokens).length →
        (IsLeast {index | place < index ∧ Boundary (body tokens) index} (nextStart tokens after) ↔
          ¬ SkipsKeyword tokens fault place)) ∧
      (SkipsKeyword tokens fault place →
        IsLeast {index | place + 1 < index ∧ Boundary (body tokens) index}
          (nextStart tokens after)) := by
  obtain ⟨next, last⟩ := nextStart_of_attemptsAt made
  have member : (start, attempt) ∈ attemptsAt tokens := by
    rw [made]
    simp
  cases attempt with
  | parsed => cases blames
  | refused fault blamed unread =>
      obtain ⟨found, given, known⟩ := exists_blames member
      obtain rfl := Option.some.inj (given.symm.trans blames)
      rw [Attempt.remaining] at next last
      refine ⟨fault, blamed, known.begun, known.here, by rw [← known.unread], rfl, ?_, ?_, ?_, ?_⟩
      · have resumed := Attempt.length_resume_le unread
        have left := congrArg List.length known.unread
        rw [List.length_drop] at left
        rw [last, next, ← List.length_eq_zero_iff]
        omega
      · intro final
        have none : unread = [] := by
          rw [known.unread]
          exact List.drop_of_length_le (by omega)
        rw [last, none, Attempt.resume]
      · intro inside
        rw [next]
        exact known.resumed_isLeast_iff inside
      · rintro ⟨consumed, token, here, starts⟩
        have inside := (List.getElem?_eq_some_iff.1 here).1
        rw [next, ← consumed]
        exact known.resumed_isLeast (by omega)

def keywordBehindTarget : List Token :=
  [⟨.identifier, "x", 1⟩, ⟨.plus, "+", 1⟩, ⟨.identifier, "y", 1⟩, ⟨.equals, "=", 1⟩,
    ⟨.print, "imprimir", 1⟩, ⟨.leftParen, "(", 1⟩, ⟨.identifier, "z", 1⟩, ⟨.semicolon, ";", 1⟩]

theorem attemptsAt_keywordBehindTarget :
    attemptsAt keywordBehindTarget =
      [] ++ (0, .refused .invalidTarget ⟨.equals, "=", 1⟩ (keywordBehindTarget.drop 4)) :: [] := by
  cbv

theorem recovery_restarts_exact_keyword_skipped :
    SkipsKeyword keywordBehindTarget .invalidTarget 3 ∧
      IsLeast {index | 4 < index ∧ Boundary (body keywordBehindTarget) index}
        (nextStart keywordBehindTarget []) := by
  have skips : SkipsKeyword keywordBehindTarget .invalidTarget 3 :=
    ⟨rfl, ⟨.print, "imprimir", 1⟩, rfl, rfl⟩
  obtain ⟨fault, blamed, -, -, same, -, -, -, -, skipped⟩ :=
    recovery_restarts_exact attemptsAt_keywordBehindTarget
      (rfl : Attempt.place? keywordBehindTarget _ = some 3)
  obtain ⟨rfl, -, -⟩ := Attempt.refused.inj same
  exact ⟨skips, skipped skips⟩

theorem keyword_behind_blamed_skipped :
    attemptsAt keywordBehindTarget =
        [(0, .refused .invalidTarget ⟨.equals, "=", 1⟩ (keywordBehindTarget.drop 4))] ∧
      (stream keywordBehindTarget)[3]? = some ⟨.equals, "=", 1⟩ ∧
      IsLeast {index | 3 < index ∧ Boundary (body keywordBehindTarget) index} 4 ∧
      nextStart keywordBehindTarget [] ≠ 4 ∧
      syntaxErrors keywordBehindTarget = [⟨1, "=", "Invalid assignment target."⟩] ∧
      syntaxErrors (keywordBehindTarget.drop 4) =
        [⟨1, ";", "Expected ')' after expression."⟩] := by
  refine ⟨attemptsAt_keywordBehindTarget, rfl, ⟨⟨by decide, ?_⟩, ?_⟩, by decide, by cbv, by cbv⟩
  · exact .inr (.inl ⟨⟨.print, "imprimir", 1⟩, rfl, rfl⟩)
  · intro index documented
    exact documented.1

end NumScript
