import NumScript.Proofs.OutputPrefix

set_option autoImplicit false

namespace NumScript

def Stmt.expression : Stmt -> Expr
  | declaration _ initializer _ => initializer
  | assignment _ value _ => value
  | print expression _ | evaluation expression _ => expression

def Stmt.declared? : Stmt -> Option String
  | declaration name _ _ => some name
  | _ => none

def Stmt.written? : Stmt -> Option String
  | declaration name _ _ | assignment name _ _ => some name
  | _ => none

def Stmt.printing? : Stmt -> Option Nat
  | print _ line => some line
  | _ => none

theorem Stmt.Completes.exists_value {symbols : Symbols} {statement : Stmt} {effect : Effect}
    (completes : statement.Completes symbols effect) :
    ∃ value, statement.expression.eval symbols = .ok value := by
  cases completes with
  | declaration computed | assignment computed | print computed | evaluation computed =>
      exact ⟨_, computed⟩

structure Completion where
  statement : Stmt
  value : Float
  deriving DecidableEq

namespace Completion

def printed? (completion : Completion) : Option PrintedLine :=
  completion.statement.printing?.map (fun line => ⟨Numeral.write completion.value, line⟩)

def latest? (name : String) (history : List Completion) : Option Float :=
  (history.filter (fun completion => completion.statement.written? = some name)).getLast?.map value

theorem latest?_append (name : String) (earlier later : List Completion) :
    latest? name (earlier ++ later) = (latest? name later).or (latest? name earlier) := by
  simp [latest?, List.getLast?_append, Option.map_or]

theorem latest?_singleton (name : String) (completion : Completion) :
    latest? name [completion] =
      if completion.statement.written? = some name then some completion.value else none := by
  by_cases written : completion.statement.written? = some name <;> simp [latest?, written]

end Completion

/-- A view of a terminal that holds the lines accepted so far. -/
structure Terminal.Logs {σ : Type} (terminal : Terminal σ) (log : σ -> List PrintedLine) :
    Prop where
  accepted {line : PrintedLine} {state next : σ}
    (reply : terminal.print line state = (.accepted, next)) : log next = log state ++ [line]
  refused {line : PrintedLine} {state next : σ} {cause : String}
    (reply : terminal.print line state = (.refused cause, next)) : log next = log state

namespace Session

variable {σ : Type} {terminal : Terminal σ} {log : σ -> List PrintedLine}

/-- What a session holds after some statements have completed, beside what it held before. -/
structure Recounts (log : σ -> List PrintedLine) (before : Session σ) (history : List Completion)
    (after : Session σ) : Prop where
  executed : after.executed = before.executed + history.length
  names : after.symbols.names = before.symbols.names ++ history.filterMap (·.statement.declared?)
  values : ∀ name, after.symbols.get? name =
    (Completion.latest? name history).or (before.symbols.get? name)
  output : log after.terminal = log before.terminal ++ history.filterMap Completion.printed?

namespace Recounts

variable {before middle after : Session σ} {earlier later : List Completion}

theorem refl (session : Session σ) : Recounts log session [] session where
  executed := rfl
  names := by simp
  values := by simp [Completion.latest?]
  output := by simp

theorem trans (first : Recounts log before earlier middle)
    (second : Recounts log middle later after) :
    Recounts log before (earlier ++ later) after where
  executed := by rw [second.executed, first.executed, List.length_append, Nat.add_assoc]
  names := by rw [second.names, first.names, List.filterMap_append, List.append_assoc]
  values name := by
    rw [second.values, first.values, Completion.latest?_append, Option.or_assoc]
  output := by rw [second.output, first.output, List.filterMap_append, List.append_assoc]

-- A name that was just given a value holds it, and all others what they held.
theorem values_of_written {name : String} {before after : Symbols}
    {completion : Completion} (written : completion.statement.written? = some name)
    (held : ∀ other, after.get? other = if other = name then some completion.value
      else before.get? other) (other : String) :
    after.get? other = (Completion.latest? other [completion]).or (before.get? other) := by
  rw [held, Completion.latest?_singleton, written]
  by_cases same : other = name
  · simp [same]
  · simp [same, Ne.symm same]

theorem of_store {session : Session σ} {statement : Stmt} {symbols : Symbols}
    (known : statement.effect session.symbols = .ok (.store symbols)) :
    ∃ value, statement.expression.eval session.symbols = .ok value ∧
      Recounts log session [⟨statement, value⟩]
        { session with symbols, executed := session.executed + 1 } := by
  cases Stmt.completes_of_effect known with
  | @declaration name initializer line value next computed declared =>
      exact ⟨value, computed, {
        executed := rfl
        names := Symbols.names_declare declared
        values := values_of_written rfl (Symbols.get?_declare declared)
        output := (List.append_nil _).symm }⟩
  | @assignment name expression line value next computed assigned =>
      exact ⟨value, computed, {
        executed := rfl
        names := (Symbols.names_assign assigned).trans (List.append_nil _).symm
        values := values_of_written rfl (Symbols.get?_assign assigned)
        output := (List.append_nil _).symm }⟩
  | @evaluation expression line value computed =>
      exact ⟨value, computed, {
        executed := rfl
        names := (List.append_nil _).symm
        values := fun other => rfl
        output := (List.append_nil _).symm }⟩

theorem of_accepted (logs : terminal.Logs log) {session : Session σ} {statement : Stmt}
    {line : PrintedLine} {state : σ}
    (known : statement.effect session.symbols = .ok (.print line))
    (reply : terminal.print line session.terminal = (.accepted, state)) :
    ∃ value, statement.expression.eval session.symbols = .ok value ∧
      Recounts log session [⟨statement, value⟩]
        { session with terminal := state, executed := session.executed + 1 } := by
  cases Stmt.completes_of_effect known with
  | @print expression line value computed =>
      exact ⟨value, computed, {
        executed := rfl
        names := (List.append_nil _).symm
        values := fun other => rfl
        output := logs.accepted reply }⟩

theorem of_execute (logs : terminal.Logs log) {session next : Session σ} {statement : Stmt}
    (done : session.execute terminal statement = (.ok (), next)) :
    ∃ value, statement.expression.eval session.symbols = .ok value ∧
      Recounts log session [⟨statement, value⟩] next := by
  rcases execute_eq_ok done with ⟨symbols, known, rfl⟩ | ⟨line, state, known, reply, rfl⟩
  · exact of_store known
  · exact of_accepted logs known reply

theorem of_failed (logs : terminal.Logs log) {session next : Session σ} {statement : Stmt}
    {error : RuntimeError} (failed : session.execute terminal statement = (.error error, next)) :
    Recounts log session [] next := by
  rcases execute_eq_error failed with ⟨-, rfl⟩ | ⟨line, cause, state, -, reply, -, rfl⟩
  · exact refl next
  · have unchanged : Recounts log session [] session := refl session
    exact { unchanged with output := (logs.refused reply).trans (List.append_nil _).symm }

end Recounts

def completions (terminal : Terminal σ) (session : Session σ) : Program -> List Completion
  | [] => []
  | statement :: rest =>
      match statement.expression.eval session.symbols, session.execute terminal statement with
      | .ok value, (.ok (), next) => ⟨statement, value⟩ :: next.completions terminal rest
      | _, _ => []

section

variable {session next : Session σ} {statement : Stmt}

theorem exists_value_of_execute (done : session.execute terminal statement = (.ok (), next)) :
    ∃ value, statement.expression.eval session.symbols = .ok value := by
  rcases execute_eq_ok done with ⟨_, known, -⟩ | ⟨_, _, known, -, -⟩ <;>
    exact (Stmt.completes_of_effect known).exists_value

theorem completions_cons_of_ok {value : Float}
    (computed : statement.expression.eval session.symbols = .ok value)
    (done : session.execute terminal statement = (.ok (), next)) (rest : Program) :
    session.completions terminal (statement :: rest) =
      ⟨statement, value⟩ :: next.completions terminal rest := by
  simp only [completions, computed, done]

theorem completions_cons_of_error {error : RuntimeError}
    (failed : session.execute terminal statement = (.error error, next)) (rest : Program) :
    session.completions terminal (statement :: rest) = [] := by
  cases computed : statement.expression.eval session.symbols <;>
    simp only [completions, computed, failed]

end

theorem completions_append {session next : Session σ} {first : Program}
    (done : session.run terminal first = (.ok (), next)) (second : Program) :
    session.completions terminal (first ++ second) =
      session.completions terminal first ++ next.completions terminal second := by
  induction first generalizing session with
  | nil =>
      cases done
      rfl
  | cons statement rest ih =>
      rcases taken : session.execute terminal statement with ⟨_ | _, middle⟩
      · rw [run_cons_of_error taken] at done
        cases done
      · obtain ⟨value, computed⟩ := exists_value_of_execute taken
        rw [run_cons_of_ok taken] at done
        rw [List.cons_append, completions_cons_of_ok computed taken,
          completions_cons_of_ok computed taken, ih done, List.cons_append]

theorem map_statement_completions {session next : Session σ} {program : Program}
    (done : session.run terminal program = (.ok (), next)) :
    (session.completions terminal program).map Completion.statement = program := by
  induction program generalizing session with
  | nil => rfl
  | cons statement rest ih =>
      rcases taken : session.execute terminal statement with ⟨_ | _, middle⟩
      · rw [run_cons_of_error taken] at done
        cases done
      · obtain ⟨value, computed⟩ := exists_value_of_execute taken
        rw [run_cons_of_ok taken] at done
        rw [completions_cons_of_ok computed taken, List.map_cons, ih done]

theorem FailsAt.map_statement_completions {session : Session σ} {program : Program} {index : Nat}
    {error : RuntimeError} (fails : session.FailsAt terminal program index error) :
    (session.completions terminal program).map Completion.statement = program.take index := by
  obtain ⟨middle, last, statement, before, here, failed, -⟩ := fails
  obtain ⟨bound, rfl⟩ := List.getElem?_eq_some_iff.1 here
  calc
    (session.completions terminal program).map Completion.statement =
        (session.completions terminal (program.take index ++
          program[index] :: program.drop (index + 1))).map Completion.statement := by
      rw [← List.drop_eq_getElem_cons bound, List.take_append_drop]
    _ = program.take index := by
      rw [completions_append before, completions_cons_of_error failed, List.append_nil,
        Session.map_statement_completions before]

theorem run_recounts (logs : terminal.Logs log) (session : Session σ) (program : Program) :
    Recounts log session (session.completions terminal program)
      (session.run terminal program).2 := by
  induction program generalizing session with
  | nil => exact .refl session
  | cons statement rest ih =>
      rcases taken : session.execute terminal statement with ⟨_ | _, next⟩
      · rw [completions_cons_of_error taken, run_cons_of_error taken]
        exact .of_failed logs taken
      · obtain ⟨value, computed, first⟩ := Recounts.of_execute logs taken
        rw [completions_cons_of_ok computed taken, run_cons_of_ok taken]
        exact first.trans (ih next)

def runAll (terminal : Terminal σ) (session : Session σ) : List Program -> Session σ
  | [] => session
  | program :: rest => (session.run terminal program).2.runAll terminal rest

def history (terminal : Terminal σ) (session : Session σ) : List Program -> List Completion
  | [] => []
  | program :: rest =>
      session.completions terminal program ++
        (session.run terminal program).2.history terminal rest

theorem runAll_recounts (logs : terminal.Logs log) (session : Session σ)
    (programs : List Program) :
    Recounts log session (session.history terminal programs)
      (session.runAll terminal programs) := by
  induction programs generalizing session with
  | nil => exact .refl session
  | cons program rest ih => exact (session.run_recounts logs program).trans (ih _)

theorem history_append (terminal : Terminal σ) (session : Session σ)
    (earlier later : List Program) :
    session.history terminal (earlier ++ later) =
      session.history terminal earlier ++
        (session.runAll terminal earlier).history terminal later := by
  induction earlier generalizing session with
  | nil => rfl
  | cons program rest ih => rw [List.cons_append, history, history, runAll, ih, List.append_assoc]

section

variable {τ : Type} {image : Terminal τ} {view : σ -> τ}

theorem completions_through (mirrors : image.Mirrors terminal view) (session : Session σ)
    (program : Program) :
    (session.through view).completions image program = session.completions terminal program := by
  induction program generalizing session with
  | nil => rfl
  | cons statement rest ih =>
      have seen := session.execute_through mirrors statement
      rcases taken : session.execute terminal statement with ⟨_ | _, next⟩
      · rw [taken] at seen
        rw [completions_cons_of_error taken, completions_cons_of_error seen]
      · obtain ⟨value, computed⟩ := exists_value_of_execute taken
        have computed' : statement.expression.eval (session.through view).symbols = .ok value :=
          computed
        rw [taken] at seen
        rw [completions_cons_of_ok computed taken, completions_cons_of_ok computed' seen, ih]

theorem runAll_through (mirrors : image.Mirrors terminal view) (session : Session σ)
    (programs : List Program) :
    (session.through view).runAll image programs =
      (session.runAll terminal programs).through view := by
  induction programs generalizing session with
  | nil => rfl
  | cons program rest ih => rw [runAll, runAll, run_through mirrors, ih]

theorem history_through (mirrors : image.Mirrors terminal view) (session : Session σ)
    (programs : List Program) :
    (session.through view).history image programs = session.history terminal programs := by
  induction programs generalizing session with
  | nil => rfl
  | cons program rest ih =>
      rw [history, history, completions_through mirrors, run_through mirrors, ih]

end

end Session

namespace Terminal

variable {σ : Type} (terminal : Terminal σ)

def keeping : Terminal (List PrintedLine × σ) where
  print line state :=
    match terminal.print line state.2 with
    | (.accepted, next) => (.accepted, (state.1 ++ [line], next))
    | (.refused cause, next) => (.refused cause, (state.1, next))

theorem mirrors_keeping : terminal.Mirrors terminal.keeping Prod.snd := by
  intro line state
  rcases reply : terminal.print line state.2 with ⟨_ | cause, next⟩ <;> simp only [keeping, reply]

theorem keeping_logs : terminal.keeping.Logs Prod.fst where
  accepted {line state next} replied := by
    rcases reply : terminal.print line state.2 with ⟨_ | cause, _⟩ <;>
      simp only [keeping, reply] at replied <;> cases replied
    rfl
  refused {line state next cause} replied := by
    rcases reply : terminal.print line state.2 with ⟨_ | cause, _⟩ <;>
      simp only [keeping, reply] at replied <;> cases replied
    rfl

end Terminal

namespace Session

variable {σ : Type} (terminal : Terminal σ) (session : Session σ) (programs : List Program)

def keepAll : Session (List PrintedLine × σ) :=
  session.watched.runAll terminal.keeping programs

theorem keepAll_through : (session.keepAll terminal programs).through Prod.snd =
    session.runAll terminal programs :=
  (runAll_through terminal.mirrors_keeping _ programs).symm

theorem keepAll_recounts :
    Recounts Prod.fst session.watched (session.history terminal programs)
      (session.keepAll terminal programs) := by
  have same : session.history terminal programs =
      session.watched.history terminal.keeping programs :=
    history_through terminal.mirrors_keeping session.watched programs
  rw [same]
  exact runAll_recounts terminal.keeping_logs session.watched programs

theorem names_runAll : (session.runAll terminal programs).symbols.names =
    session.symbols.names ++
      (session.history terminal programs).filterMap (·.statement.declared?) := by
  rw [← keepAll_through]
  exact (session.keepAll_recounts terminal programs).names

end Session

theorem session_holds_history {σ : Type} (terminal : Terminal σ) (state : σ)
    (programs : List Program) :
    let session := Session.runAll terminal { terminal := state } programs
    let history := Session.history terminal { terminal := state } programs
    session.executed = history.length ∧
    session.symbols.names = history.filterMap (·.statement.declared?) ∧
    session.symbols.names.Nodup ∧
    session.symbols.size = (history.filterMap (·.statement.declared?)).length ∧
    (∀ name, session.symbols.get? name = Completion.latest? name history) ∧
    (Session.keepAll terminal { terminal := state } programs).terminal.1 =
      history.filterMap Completion.printed? ∧
    (Session.keepAll terminal { terminal := state } programs).through Prod.snd = session ∧
    (∀ more, session.symbols.names <+: (session.runAll terminal more).symbols.names) ∧
    ∀ program,
      Session.history terminal { terminal := state } (programs ++ [program]) =
        history ++ session.completions terminal program ∧
      ((session.run terminal program).1 = .ok () →
        (session.completions terminal program).map Completion.statement = program) ∧
      ∀ index error, session.FailsAt terminal program index error →
        (session.completions terminal program).map Completion.statement = program.take index := by
  intro session history
  have recounts := Session.keepAll_recounts terminal { terminal := state } programs
  have kept : (Session.keepAll terminal { terminal := state } programs).through Prod.snd =
      session :=
    Session.keepAll_through terminal { terminal := state } programs
  have names : session.symbols.names = history.filterMap (·.statement.declared?) :=
    Session.names_runAll terminal { terminal := state } programs
  refine ⟨?_, names, session.symbols.distinct, ?_, ?_, recounts.output, kept, ?_, ?_⟩
  · rw [← kept]
    exact recounts.executed.trans (Nat.zero_add _)
  · rw [← session.symbols.length_names, names]
  · intro name
    rw [← kept]
    exact (recounts.values name).trans Option.or_none
  · intro more
    rw [Session.names_runAll terminal session more]
    exact List.prefix_append _ _
  · intro program
    refine ⟨?_, ?_, fun index error fails => fails.map_statement_completions⟩
    · rw [Session.history_append]
      exact congrArg (history ++ ·) (List.append_nil _)
    · intro done
      exact Session.map_statement_completions (Prod.ext done rfl)

def brokenRuns : List Program :=
  [[.declaration "x" (.number 1) 1, .print (.var "x" 2) 2, .assignment "y" (.var "x" 3) 3],
    [.assignment "x" (.number 3) 1, .print (.var "x" 2) 2]]

def completedOfBroken : List Completion :=
  [⟨.declaration "x" (.number 1) 1, 1⟩, ⟨.print (.var "x" 2) 2, 1⟩,
    ⟨.assignment "x" (.number 3) 1, 3⟩]

theorem session_holds_history_of_broken_runs :
    Session.history (.selective [2]) { terminal := {} } brokenRuns = completedOfBroken ∧
      let session := Session.runAll (.selective [2]) { terminal := {} } brokenRuns
      session.executed = 3 ∧ session.symbols.names = ["x"] ∧ session.symbols.get? "x" = some 3 ∧
        (Session.keepAll (.selective [2]) { terminal := {} } brokenRuns).terminal.1 =
          [⟨"1", 2⟩] := by
  have completed : Session.history (.selective [2]) { terminal := {} } brokenRuns =
      completedOfBroken := by
    decide +kernel
  obtain ⟨executed, names, -, -, values, output, -⟩ :=
    session_holds_history (.selective [2]) {} brokenRuns
  rw [completed] at executed names output
  refine ⟨completed, executed, names, ?_, ?_⟩
  · rw [values, completed]
    decide +kernel
  · rw [output]
    decide +kernel

end NumScript
