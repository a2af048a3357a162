import NumScript.Proofs.History
import NumScript.Proofs.NameCheck

set_option autoImplicit false

namespace NumScript

def Stmt.Admitted (symbols : Symbols) : Stmt -> Prop
  | declaration name _ _ => symbols.get? name = none
  | assignment name _ _ => symbols.get? name ≠ none
  | print _ _ | evaluation _ _ => True

theorem Stmt.admitted_congr {first second : Symbols} {statement : Stmt}
    (agree : ∀ name, statement.written? = some name → first.get? name = second.get? name) :
    statement.Admitted first ↔ statement.Admitted second := by
  cases statement with
  | declaration name | assignment name => simp only [Admitted, agree name rfl]
  | print | evaluation => exact Iff.rfl

namespace Session

variable {σ : Type} {terminal : Terminal σ}

/-- What a statement that completes needs of a session and does to it, as far as names show it. -/
structure Completed (terminal : Terminal σ) (before : Session σ) (statement : Stmt) (value : Float)
    (after : Session σ) : Prop where
  computed : statement.expression.eval before.symbols = .ok value
  admitted : statement.Admitted before.symbols
  values : ∀ name, after.symbols.get? name =
    if statement.written? = some name then some value else before.symbols.get? name
  executed : after.executed = before.executed + 1
  printed : ∀ line, statement.printing? = some line →
    terminal.print ⟨Numeral.write value, line⟩ before.terminal = (.accepted, after.terminal)
  quiet : statement.printing? = none → after.terminal = before.terminal

theorem completed_of_execute {before after : Session σ} {statement : Stmt}
    (done : before.execute terminal statement = (.ok (), after)) :
    ∃ value, Completed terminal before statement value after := by
  rcases execute_eq_ok done with ⟨symbols, known, rfl⟩ | ⟨line, state, known, reply, rfl⟩
  · cases Stmt.completes_of_effect known with
    | @declaration name initializer line value next computed declared =>
        exact ⟨value, {
          computed
          admitted := Symbols.get?_of_declare declared
          values := by simpa [Stmt.written?, eq_comm] using Symbols.get?_declare declared
          executed := rfl
          printed := nofun
          quiet := fun _ => rfl }⟩
    | @assignment name expression line value next computed assigned =>
        exact ⟨value, {
          computed
          admitted := Symbols.get?_of_assign assigned
          values := by simpa [Stmt.written?, eq_comm] using Symbols.get?_assign assigned
          executed := rfl
          printed := nofun
          quiet := fun _ => rfl }⟩
    | @evaluation expression line value computed =>
        exact ⟨value, {
          computed
          admitted := trivial
          values := fun _ => rfl
          executed := rfl
          printed := nofun
          quiet := fun _ => rfl }⟩
  · cases Stmt.completes_of_effect known with
    | @print expression line value computed =>
        exact ⟨value, {
          computed
          admitted := trivial
          values := fun _ => rfl
          executed := rfl
          printed := by
            rintro _ ⟨⟩
            exact reply
          quiet := nofun }⟩

theorem exists_execute {before : Session σ} {statement : Stmt} {value : Float}
    (computed : statement.expression.eval before.symbols = .ok value)
    (admitted : statement.Admitted before.symbols)
    (accepted : ∀ line, statement.printing? = some line →
      (terminal.print ⟨Numeral.write value, line⟩ before.terminal).1 = .accepted) :
    ∃ after, before.execute terminal statement = (.ok (), after) := by
  cases statement with
  | declaration name initializer line =>
      obtain ⟨next, declared⟩ := Symbols.exists_declare admitted value line
      exact ⟨_, execute_store before (Stmt.Completes.declaration computed declared).effect_eq⟩
  | assignment name expression line =>
      have known : name ∈ before.symbols.names := (before.symbols.get?_ne_none_iff name).1 admitted
      obtain ⟨next, assigned⟩ :=
        Symbols.exists_assign ((before.symbols.contains_iff name).2 known) value line
      exact ⟨_, execute_store before (Stmt.Completes.assignment computed assigned).effect_eq⟩
  | print expression line =>
      exact ⟨_, execute_accepted before (Stmt.Completes.print computed).effect_eq
        (Prod.ext (accepted line rfl) rfl)⟩
  | evaluation expression line =>
      exact ⟨_, execute_store before (Stmt.Completes.evaluation computed).effect_eq⟩

-- A statement notices only the names that it reads or writes and, if it prints, the terminal.
theorem Completed.transfer {before after other : Session σ} {statement : Stmt} {value : Float}
    (completed : Completed terminal before statement value after)
    (agree : ∀ name, name ∈ statement.expression.names ∨ statement.written? = some name →
      other.symbols.get? name = before.symbols.get? name)
    (facing : statement.printing? = none ∨ other.terminal = before.terminal) :
    ∃ next, other.execute terminal statement = (.ok (), next) ∧
      Completed terminal other statement value next ∧
      (statement.printing? = none ∨ next.terminal = after.terminal) := by
  have computed : statement.expression.eval other.symbols = .ok value := by
    rw [Expr.eval_congr (fun name mentioned => agree name (.inl mentioned))]
    exact completed.computed
  have admitted : statement.Admitted other.symbols :=
    (Stmt.admitted_congr (fun name written => agree name (.inr written))).2 completed.admitted
  have replied : ∀ line, statement.printing? = some line →
      terminal.print ⟨Numeral.write value, line⟩ other.terminal = (.accepted, after.terminal) := by
    intro line printing
    rw [facing.resolve_left (by simp [printing])]
    exact completed.printed line printing
  obtain ⟨next, done⟩ := exists_execute computed admitted
    (fun line printing => congrArg Prod.fst (replied line printing))
  obtain ⟨again, made⟩ := completed_of_execute done
  obtain rfl : value = again := Except.ok.inj (computed.symm.trans made.computed)
  refine ⟨next, done, made, ?_⟩
  cases printing : statement.printing? with
  | none => exact .inl rfl
  | some line =>
      exact .inr (congrArg Prod.snd ((made.printed line printing).symm.trans
        (replied line printing)))

end Session

/-- Neither of two statements writes a name that the other one reads or writes, and they do not both
print. -/
structure Stmt.Independent (first second : Stmt) : Prop where
  quiet : first.printing? = none ∨ second.printing? = none
  ahead : ∀ name, first.written? = some name →
    name ∉ second.expression.names ∧ second.written? ≠ some name
  behind : ∀ name, second.written? = some name →
    name ∉ first.expression.names ∧ first.written? ≠ some name

theorem Stmt.Independent.symm {first second : Stmt} (independent : first.Independent second) :
    second.Independent first where
  quiet := independent.quiet.symm
  ahead := independent.behind
  behind := independent.ahead

namespace Session

variable {σ : Type} {terminal : Terminal σ} {session last : Session σ} {first second : Stmt}

theorem run_pair_eq_ok :
    session.run terminal [first, second] = (.ok (), last) ↔
      ∃ middle, session.execute terminal first = (.ok (), middle) ∧
        middle.execute terminal second = (.ok (), last) := by
  rcases one : session.execute terminal first with ⟨_ | _, middle⟩
  · simp [run_cons_of_error one]
  · rw [run_cons_of_ok one]
    rcases other : middle.execute terminal second with ⟨_ | _, next⟩
    · simp [run_cons_of_error other, other]
    · simp [other, run]

theorem Completed.unaffected {before middle : Session σ} {value : Float}
    (independent : first.Independent second)
    (completed : Completed terminal before first value middle) (name : String)
    (touched : name ∈ second.expression.names ∨ second.written? = some name) :
    before.symbols.get? name = middle.symbols.get? name := by
  rw [completed.values, if_neg]
  intro written
  obtain ⟨unread, unwritten⟩ := independent.ahead name written
  exact touched.elim unread unwritten

theorem exists_swapped (independent : first.Independent second)
    (done : session.run terminal [first, second] = (.ok (), last)) :
    ∃ other, session.run terminal [second, first] = (.ok (), other) ∧
      (∀ name, last.symbols.get? name = other.symbols.get? name) ∧
      last.executed = other.executed ∧ last.terminal = other.terminal := by
  obtain ⟨middle, one, two⟩ := run_pair_eq_ok.1 done
  obtain ⟨firstValue, completed⟩ := completed_of_execute one
  obtain ⟨secondValue, finished⟩ := completed_of_execute two
  obtain ⟨other, early, moved, shown⟩ := finished.transfer
    (completed.unaffected independent)
    (independent.quiet.elim (fun quiet => .inr (completed.quiet quiet).symm) .inl)
  obtain ⟨final, late, ended, shown'⟩ := completed.transfer
    (fun name touched => (moved.unaffected independent.symm name touched).symm)
    (independent.quiet.elim .inl (fun quiet => .inr (moved.quiet quiet)))
  refine ⟨final, run_pair_eq_ok.2 ⟨other, early, late⟩, ?_, ?_, ?_⟩
  · intro name
    rw [finished.values, completed.values, ended.values, moved.values]
    by_cases written : first.written? = some name
    · simp [written, (independent.ahead name written).2]
    · simp [written]
  · rw [finished.executed, completed.executed, ended.executed, moved.executed]
  · rcases independent.quiet with quiet | quiet
    · rw [ended.quiet quiet]
      rcases shown with silent | same
      · rw [finished.quiet silent, completed.quiet quiet, moved.quiet silent]
      · exact same.symm
    · rw [finished.quiet quiet]
      rcases shown' with silent | same
      · rw [completed.quiet silent, ended.quiet silent, moved.quiet quiet]
      · exact same.symm

end Session

theorem independent_statements_commute {σ : Type} (terminal : Terminal σ) (session : Session σ)
    {first second : Stmt} (independent : first.Independent second) :
    ((session.run terminal [first, second]).1 = .ok () ↔
      (session.run terminal [second, first]).1 = .ok ()) ∧
    ((session.run terminal [first, second]).1 = .ok () →
      (∀ name, (session.run terminal [first, second]).2.symbols.get? name =
        (session.run terminal [second, first]).2.symbols.get? name) ∧
      (session.run terminal [first, second]).2.executed =
        (session.run terminal [second, first]).2.executed ∧
      (session.run terminal [first, second]).2.terminal =
        (session.run terminal [second, first]).2.terminal) := by
  refine ⟨⟨?_, ?_⟩, ?_⟩
  · intro done
    obtain ⟨other, swapped, -⟩ := Session.exists_swapped independent (Prod.ext done rfl)
    rw [swapped]
  · intro done
    obtain ⟨other, swapped, -⟩ := Session.exists_swapped independent.symm (Prod.ext done rfl)
    rw [swapped]
  · intro done
    obtain ⟨other, swapped, values, executed, state⟩ :=
      Session.exists_swapped independent (Prod.ext done rfl)
    rw [swapped]
    exact ⟨values, executed, state⟩

def halved : Stmt :=
  .declaration "x" (.binary .div ⟨.slash, "/", 2⟩ (.var "y" 2) (.number 2)) 2

def shown : Stmt :=
  .print (.var "y" 3) 3

def threeHeld : Session Terminal.Selection :=
  (Session.run (.selective [2]) { terminal := {} } [.declaration "y" (.number 3) 1]).2

theorem independent_statements_commute_declaration_print :
    halved.Independent shown ∧
      (threeHeld.run (.selective [2]) [halved, shown]).1 = .ok () ∧
      (threeHeld.run (.selective [2]) [shown, halved]).1 = .ok () ∧
      (threeHeld.run (.selective [2]) [halved, shown]).2.terminal =
        (threeHeld.run (.selective [2]) [shown, halved]).2.terminal := by
  have independent : halved.Independent shown :=
    ⟨.inl rfl, by rintro name ⟨⟩; decide, nofun⟩
  have done : (threeHeld.run (.selective [2]) [halved, shown]).1 = .ok () := rfl
  obtain ⟨both, ends⟩ := independent_statements_commute (.selective [2]) threeHeld independent
  exact ⟨independent, done, both.1 done, (ends done).2.2⟩

end NumScript
