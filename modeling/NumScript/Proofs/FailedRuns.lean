import NumScript.Proofs.NameCheck
import NumScript.Proofs.OutputPrefix

set_option autoImplicit false

namespace NumScript

def RuntimeError.isOutput : RuntimeError -> Bool
  | output _ _ => true
  | _ => false

theorem Expr.isOutput_of_missing? {declared : List String} {expression : Expr}
    {error : RuntimeError} (missing : expression.missing? declared = some error) :
    error.isOutput = false := by
  obtain ⟨⟨name, line⟩, -, rfl⟩ := Option.map_eq_some_iff.1 missing
  rfl

theorem Stmt.isOutput_of_nameFault? {declared : List String} {statement : Stmt}
    {error : RuntimeError} (faulty : statement.nameFault? declared = some error) :
    error.isOutput = false := by
  cases statement with
  | declaration name initializer line =>
      rcases Option.or_eq_some_iff.1 faulty with missing | ⟨-, twice⟩
      · exact Expr.isOutput_of_missing? missing
      · split at twice <;> cases twice
        rfl
  | assignment name value line =>
      rw [nameFault?] at faulty
      split at faulty
      · exact Expr.isOutput_of_missing? faulty
      · cases faulty
        rfl
  | print | evaluation => exact Expr.isOutput_of_missing? faulty

theorem Stmt.isOutput_of_effect {symbols : Symbols} {statement : Stmt} {error : RuntimeError}
    (faulty : statement.effect symbols = .error error) : error.isOutput = false := by
  have foreseen := statement.foresees_effect symbols
  rw [faulty] at foreseen
  rcases foreseen with met | ⟨line, rfl⟩
  · exact isOutput_of_nameFault? met
  · rfl

namespace Session

theorem isOutput_of_recorder {session : Session (List PrintedLine)} {program : Program}
    {error : RuntimeError} (failed : (session.run .recorder program).1 = .error error) :
    error.isOutput = false := by
  obtain ⟨_, _, _, _, -, -, faulty, -⟩ := exists_failsAt failed
  rcases execute_eq_error faulty with ⟨known, -⟩ | ⟨_, _, _, -, refused, -⟩
  · exact Stmt.isOutput_of_effect known
  · cases refused

variable {σ : Type} {terminal : Terminal σ} {session next : Session σ} {statement : Stmt}
  {error : RuntimeError}

theorem symbols_of_failed (failed : session.execute terminal statement = (.error error, next)) :
    next.symbols = session.symbols ∧ next.executed = session.executed := by
  rcases execute_eq_error failed with ⟨-, rfl⟩ | ⟨_, _, _, -, -, -, rfl⟩ <;> exact ⟨rfl, rfl⟩

theorem eq_of_failed (failed : session.execute terminal statement = (.error error, next))
    (inside : error.isOutput = false) : next = session := by
  rcases execute_eq_error failed with ⟨-, same⟩ | ⟨line, cause, _, -, -, rfl, -⟩
  · exact same
  · cases inside

theorem refused_of_failed {cause : String} {line : Nat}
    (failed : session.execute terminal statement = (.error (.output cause line), next)) :
    ∃ printed, printed.line = line ∧
      terminal.print printed session.terminal = (.refused cause, next.terminal) := by
  rcases execute_eq_error failed with ⟨faulty, -⟩ | ⟨printed, _, _, -, refused, same, rfl⟩
  · cases Stmt.isOutput_of_effect faulty
  · cases same
    exact ⟨printed, rfl, refused⟩

theorem FailsAt.run_eq {program others : Program} {index : Nat}
    (fails : session.FailsAt terminal program index error)
    (same : others.take (index + 1) = program.take (index + 1)) :
    session.run terminal others = session.run terminal program := by
  obtain ⟨middle, last, statement, before, here, failed, whole⟩ := fails
  have start : others.take index = program.take index := by
    have shorter := congrArg (List.take index) same
    rwa [List.take_take, List.take_take, Nat.min_eq_left (Nat.le_succ index)] at shorter
  have inside : others[index]? = some statement := by
    rw [← here, ← List.getElem?_take_of_succ, same, List.getElem?_take_of_succ]
  rw [whole]
  exact run_of_execute (start ▸ before) inside failed

theorem FailsAt.not_lt {program : Program} {first second : Nat} {other : RuntimeError}
    (fails : session.FailsAt terminal program first error)
    (later : session.FailsAt terminal program second other) : ¬ first < second := by
  intro less
  have cut : (program.take second).take (first + 1) = program.take (first + 1) := by
    rw [List.take_take, Nat.min_eq_left less]
  have stopped := fails.run_eq cut
  obtain ⟨_, _, _, -, -, -, whole⟩ := fails
  obtain ⟨_, _, _, before, -, -, -⟩ := later
  rw [before, whole] at stopped
  cases stopped

theorem FailsAt.unique {program : Program} {first second : Nat} {other : RuntimeError}
    (fails : session.FailsAt terminal program first error)
    (later : session.FailsAt terminal program second other) : first = second :=
  Nat.le_antisymm (Nat.le_of_not_lt (later.not_lt fails)) (Nat.le_of_not_lt (fails.not_lt later))

/-- The lines that the terminal is offered while a program runs, in order. -/
def offered (terminal : Terminal σ) (session : Session σ) (program : Program) : List PrintedLine :=
  (session.watched.run terminal.observed program).2.terminal.1

theorem run_watched (terminal : Terminal σ) (session : Session σ) (program : Program) :
    session.run terminal program =
      ((session.watched.run terminal.observed program).1,
        (session.watched.run terminal.observed program).2.through Prod.snd) :=
  session.watched.run_through terminal.mirrors_observed program

theorem FailsAt.watched {program : Program} {index : Nat}
    (fails : session.FailsAt terminal program index error) :
    session.watched.FailsAt terminal.observed program index error :=
  FailsAt.of_through terminal.mirrors_observed fails

theorem FailsAt.offered_of_inside {program : Program} {index : Nat}
    (fails : session.FailsAt terminal program index error) (inside : error.isOutput = false) :
    session.offered terminal program = session.offered terminal (program.take index) := by
  obtain ⟨middle, last, statement, before, -, failed, whole⟩ := fails.watched
  rw [offered, offered, whole, before, eq_of_failed failed inside]

theorem FailsAt.offered_of_refused {program : Program} {index : Nat} {cause : String} {line : Nat}
    (fails : session.FailsAt terminal program index (.output cause line)) :
    ∃ printed, printed.line = line ∧
      terminal.print printed (session.run terminal (program.take index)).2.terminal =
        (.refused cause, (session.run terminal program).2.terminal) ∧
      session.offered terminal program =
        session.offered terminal (program.take index) ++ [printed] := by
  obtain ⟨middle, last, statement, before, -, failed, whole⟩ := fails.watched
  obtain ⟨printed, same, refused⟩ := refused_of_failed failed
  obtain ⟨reply, state⟩ := Prod.mk.inj refused
  have left : (terminal.print printed middle.terminal.2).2 = last.terminal.2 :=
    congrArg Prod.snd state
  refine ⟨printed, same, ?_, ?_⟩
  · rw [run_watched, run_watched terminal session program, before, whole]
    exact Prod.ext reply left
  · rw [offered, offered, whole, before, ← state]

end Session

theorem failed_run_exact {σ : Type} (terminal : Terminal σ) (session : Session σ)
    (program : Program) (error : RuntimeError)
    (failed : (session.run terminal program).1 = .error error) :
    ∃ index middle statement, index < program.length ∧
      session.run terminal (program.take index) = (.ok (), middle) ∧
      program[index]? = some statement ∧
      middle.execute terminal statement = (.error error, (session.run terminal program).2) ∧
      (session.run terminal program).2.symbols = middle.symbols ∧
      (session.run terminal program).2.executed = middle.executed ∧
      (error.isOutput = false →
        (session.run terminal program).2.terminal = middle.terminal ∧
        session.offered terminal program = session.offered terminal (program.take index)) ∧
      (∀ cause line, error = .output cause line → ∃ printed, printed.line = line ∧
        terminal.print printed middle.terminal =
          (.refused cause, (session.run terminal program).2.terminal) ∧
        session.offered terminal program =
          session.offered terminal (program.take index) ++ [printed]) ∧
      (∀ others, session.run terminal (program.take (index + 1) ++ others) =
        session.run terminal program) ∧
      ∀ other reached last faulty fault,
        session.run terminal (program.take other) = (.ok (), reached) →
        program[other]? = some faulty →
        reached.execute terminal faulty = (.error fault, last) → other = index := by
  obtain ⟨index, fails⟩ := Session.exists_failsAt failed
  have noticed := fails
  obtain ⟨middle, last, statement, before, here, faulty, whole⟩ := noticed
  have reached : (session.run terminal program).2 = last := congrArg Prod.snd whole
  obtain ⟨symbols, executed⟩ := Session.symbols_of_failed faulty
  refine ⟨index, middle, statement, fails.lt_length, before, here, ?_, ?_, ?_, ?_, ?_, ?_, ?_⟩
  · rw [reached, faulty]
  · rw [reached, symbols]
  · rw [reached, executed]
  · intro inside
    rw [reached, Session.eq_of_failed faulty inside]
    exact ⟨rfl, fails.offered_of_inside inside⟩
  · rintro cause line rfl
    have refused := fails.offered_of_refused
    rwa [before] at refused
  · intro others
    apply fails.run_eq
    rw [List.take_left' (List.length_take_of_le fails.lt_length)]
  · intro other halfway final wrong fault done place broken
    have otherwise := Session.run_of_execute done place broken
    exact Session.FailsAt.unique ⟨halfway, final, wrong, done, place, broken, otherwise⟩ fails

def printedTwice : Program :=
  [.declaration "x" (.number 1) 1, .print (.var "x" 2) 2, .print (.var "x" 3) 3,
    .assignment "x" (.number 2) 4]

theorem failed_run_exact_second_line_refused :
    (Session.run (.selective [2]) { terminal := {} } printedTwice).1 =
        .error (.output "line refused" 3) ∧
      ∃ index middle statement, index < 4 ∧
        Session.run (.selective [2]) { terminal := {} } (printedTwice.take index) =
          (.ok (), middle) ∧
        middle.execute (.selective [2]) statement =
          (.error (.output "line refused" 3),
            (Session.run (.selective [2]) { terminal := {} } printedTwice).2) ∧
        ∃ printed, printed.line = 3 ∧
          Session.offered (.selective [2]) { terminal := {} } printedTwice =
            Session.offered (.selective [2]) { terminal := {} } (printedTwice.take index) ++
              [printed] := by
  have failed : (Session.run (.selective [2]) { terminal := {} } printedTwice).1 =
      .error (.output "line refused" 3) :=
    rfl
  obtain ⟨index, middle, statement, bound, before, -, faulty, -, -, -, refused, -, -⟩ :=
    failed_run_exact _ _ _ _ failed
  obtain ⟨printed, same, -, offered⟩ := refused _ _ rfl
  exact ⟨failed, index, middle, statement, bound, before, faulty, printed, same, offered⟩

end NumScript
