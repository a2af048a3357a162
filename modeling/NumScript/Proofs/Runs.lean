import NumScript.Execution

set_option autoImplicit false

namespace NumScript

def Effect.symbols (before : Symbols) : Effect -> Symbols
  | store symbols => symbols
  | print _ => before

inductive Stmt.Completes (symbols : Symbols) : Stmt -> Effect -> Prop where
  | declaration {name : String} {initializer : Expr} {line : Nat} {value : Float} {next : Symbols}
      (computed : initializer.eval symbols = .ok value)
      (declared : symbols.declare name value line = .ok next) :
      Completes symbols (.declaration name initializer line) (.store next)
  | assignment {name : String} {expression : Expr} {line : Nat} {value : Float} {next : Symbols}
      (computed : expression.eval symbols = .ok value)
      (assigned : symbols.assign name value line = .ok next) :
      Completes symbols (.assignment name expression line) (.store next)
  | print {expression : Expr} {line : Nat} {value : Float}
      (computed : expression.eval symbols = .ok value) :
      Completes symbols (.print expression line) (.print ⟨Numeral.write value, line⟩)
  | evaluation {expression : Expr} {line : Nat} {value : Float}
      (computed : expression.eval symbols = .ok value) :
      Completes symbols (.evaluation expression line) (.store symbols)

theorem exists_of_bind_eq_ok {α β : Type} {computed : Except RuntimeError α}
    {next : α -> Except RuntimeError β} {result : β} (known : (computed >>= next) = .ok result) :
    ∃ value, computed = .ok value ∧ next value = .ok result := by
  cases computed with
  | error => cases known
  | ok value => exact ⟨value, rfl, known⟩

theorem Stmt.completes_of_effect {symbols : Symbols} {statement : Stmt} {effect : Effect}
    (known : statement.effect symbols = .ok effect) : statement.Completes symbols effect := by
  cases statement with
  | declaration name initializer line =>
      obtain ⟨value, computed, known⟩ := exists_of_bind_eq_ok known
      obtain ⟨next, declared, known⟩ := exists_of_bind_eq_ok known
      cases known
      exact .declaration computed declared
  | assignment name expression line =>
      simp only [Stmt.effect] at known
      split at known
      · obtain ⟨value, computed, known⟩ := exists_of_bind_eq_ok known
        obtain ⟨next, assigned, known⟩ := exists_of_bind_eq_ok known
        cases known
        exact .assignment computed assigned
      · cases known
  | print expression line =>
      obtain ⟨value, computed, known⟩ := exists_of_bind_eq_ok known
      cases known
      exact .print computed
  | evaluation expression line =>
      obtain ⟨value, computed, known⟩ := exists_of_bind_eq_ok known
      cases known
      exact .evaluation computed

theorem Stmt.Completes.effect_eq {symbols : Symbols} {statement : Stmt} {effect : Effect}
    (completes : statement.Completes symbols effect) : statement.effect symbols = .ok effect := by
  cases completes with
  | @declaration name initializer line value next computed declared =>
      rw [Stmt.effect, computed]
      change (symbols.declare name value line >>= _) = _
      rw [declared]
      rfl
  | @assignment name expression line value next computed assigned =>
      have known : name ∈ symbols.names :=
        (symbols.get?_ne_none_iff name).1 (Symbols.get?_of_assign assigned)
      rw [Stmt.effect, if_pos ((symbols.contains_iff name).2 known), computed]
      change (symbols.assign name value line >>= _) = _
      rw [assigned]
      rfl
  | print computed | evaluation computed =>
      rw [Stmt.effect, computed]
      rfl

namespace Session

variable {σ : Type} {terminal : Terminal σ} {statement : Stmt}

section

variable (session : Session σ)

theorem execute_of_effect_error {error : RuntimeError}
    (faulty : statement.effect session.symbols = .error error) :
    session.execute terminal statement = (.error error, session) := by
  simp only [execute, faulty]

theorem execute_store {symbols : Symbols}
    (known : statement.effect session.symbols = .ok (.store symbols)) :
    session.execute terminal statement =
      (.ok (), { session with symbols, executed := session.executed + 1 }) := by
  simp only [execute, known]

theorem execute_accepted {line : PrintedLine} {state : σ}
    (known : statement.effect session.symbols = .ok (.print line))
    (reply : terminal.print line session.terminal = (.accepted, state)) :
    session.execute terminal statement =
      (.ok (), { session with terminal := state, executed := session.executed + 1 }) := by
  simp only [execute, known, reply]

theorem execute_refused {line : PrintedLine} {cause : String} {state : σ}
    (known : statement.effect session.symbols = .ok (.print line))
    (reply : terminal.print line session.terminal = (.refused cause, state)) :
    session.execute terminal statement =
      (.error (.output cause line.line), { session with terminal := state }) := by
  simp only [execute, known, reply]

-- A statement whose effect is known can only fail by a refusal, which leaves the symbols alone.
theorem execute_of_effect_ok {effect : Effect}
    (known : statement.effect session.symbols = .ok effect) :
    (∃ next, session.execute terminal statement = (.ok (), next) ∧
      next.symbols = effect.symbols session.symbols) ∨
    ∃ cause line next,
      session.execute terminal statement = (.error (.output cause line), next) := by
  cases effect with
  | store symbols => exact .inl ⟨_, execute_store session known, rfl⟩
  | print line =>
      rcases reply : terminal.print line session.terminal with ⟨_ | cause, state⟩
      · exact .inl ⟨_, execute_accepted session known reply, rfl⟩
      · exact .inr ⟨cause, line.line, _, execute_refused session known reply⟩

end

variable {session next : Session σ}

theorem execute_eq_ok (done : session.execute terminal statement = (.ok (), next)) :
    (∃ symbols, statement.effect session.symbols = .ok (.store symbols) ∧
      next = { session with symbols, executed := session.executed + 1 }) ∨
    ∃ line state, statement.effect session.symbols = .ok (.print line) ∧
      terminal.print line session.terminal = (.accepted, state) ∧
      next = { session with terminal := state, executed := session.executed + 1 } := by
  unfold execute at done
  split at done
  next => cases done
  next symbols known =>
    cases done
    exact .inl ⟨symbols, known, rfl⟩
  next line known =>
    split at done
    next state reply =>
      cases done
      exact .inr ⟨line, state, known, reply, rfl⟩
    next => cases done

theorem execute_eq_error {error : RuntimeError}
    (failed : session.execute terminal statement = (.error error, next)) :
    (statement.effect session.symbols = .error error ∧ next = session) ∨
    ∃ line cause state, statement.effect session.symbols = .ok (.print line) ∧
      terminal.print line session.terminal = (.refused cause, state) ∧
      error = .output cause line.line ∧ next = { session with terminal := state } := by
  unfold execute at failed
  split at failed
  next known =>
    cases failed
    exact .inl ⟨known, rfl⟩
  next => cases failed
  next line known =>
    split at failed
    next => cases failed
    next cause state reply =>
      cases failed
      exact .inr ⟨line, cause, state, known, reply, rfl, rfl⟩

theorem run_cons_of_ok (done : session.execute terminal statement = (.ok (), next))
    (rest : Program) : session.run terminal (statement :: rest) = next.run terminal rest := by
  simp only [run, done]

theorem run_cons_of_error {error : RuntimeError}
    (failed : session.execute terminal statement = (.error error, next)) (rest : Program) :
    session.run terminal (statement :: rest) = (.error error, next) := by
  simp only [run, failed]

def runBoth (terminal : Terminal σ) (session : Session σ) (first second : Program) :
    Except RuntimeError Unit × Session σ :=
  match session.run terminal first with
  | (.ok (), next) => next.run terminal second
  | failed => failed

theorem run_append (terminal : Terminal σ) (session : Session σ) (first second : Program) :
    session.run terminal (first ++ second) = session.runBoth terminal first second := by
  induction first generalizing session with
  | nil => rfl
  | cons statement rest ih =>
      rcases taken : session.execute terminal statement with ⟨_ | _, next⟩
      · rw [List.cons_append, run_cons_of_error taken, runBoth, run_cons_of_error taken]
      · rw [List.cons_append, run_cons_of_ok taken, ih, runBoth, runBoth, run_cons_of_ok taken]

/-- The statement with the given index fails, and all statements before it have completed. -/
def FailsAt (terminal : Terminal σ) (session : Session σ) (program : Program) (index : Nat)
    (error : RuntimeError) : Prop :=
  ∃ middle last statement, session.run terminal (program.take index) = (.ok (), middle) ∧
    program[index]? = some statement ∧
    middle.execute terminal statement = (.error error, last) ∧
    session.run terminal program = (.error error, last)

theorem FailsAt.zero {error : RuntimeError}
    (failed : session.execute terminal statement = (.error error, next)) (rest : Program) :
    session.FailsAt terminal (statement :: rest) 0 error :=
  ⟨session, next, statement, rfl, rfl, failed, run_cons_of_error failed rest⟩

theorem FailsAt.succ {error : RuntimeError} {rest : Program} {index : Nat}
    (done : session.execute terminal statement = (.ok (), next))
    (later : next.FailsAt terminal rest index error) :
    session.FailsAt terminal (statement :: rest) (index + 1) error := by
  obtain ⟨middle, last, faulty, before, here, failed, whole⟩ := later
  refine ⟨middle, last, faulty, ?_, by simpa using here, failed, ?_⟩
  · rw [List.take_succ_cons, run_cons_of_ok done]
    exact before
  · rw [run_cons_of_ok done]
    exact whole

theorem FailsAt.lt_length {program : Program} {index : Nat} {error : RuntimeError}
    (fails : session.FailsAt terminal program index error) : index < program.length := by
  obtain ⟨_, _, _, -, here, -, -⟩ := fails
  exact (List.getElem?_eq_some_iff.1 here).1

theorem exists_failsAt {program : Program} {error : RuntimeError}
    (failed : (session.run terminal program).1 = .error error) :
    ∃ index, session.FailsAt terminal program index error := by
  induction program generalizing session with
  | nil => cases failed
  | cons statement rest ih =>
      rcases taken : session.execute terminal statement with ⟨_ | _, next⟩
      · rw [run_cons_of_error taken] at failed
        cases failed
        exact ⟨0, .zero taken rest⟩
      · rw [run_cons_of_ok taken] at failed
        obtain ⟨index, later⟩ := ih failed
        exact ⟨index + 1, later.succ taken⟩

theorem run_append_of_ok {first : Program} (done : session.run terminal first = (.ok (), next))
    (second : Program) : session.run terminal (first ++ second) = next.run terminal second := by
  rw [run_append, runBoth, done]

theorem run_of_execute {middle last : Session σ} {program : Program} {index : Nat}
    {error : RuntimeError} (before : session.run terminal (program.take index) = (.ok (), middle))
    (here : program[index]? = some statement)
    (failed : middle.execute terminal statement = (.error error, last)) :
    session.run terminal program = (.error error, last) := by
  obtain ⟨bound, rfl⟩ := List.getElem?_eq_some_iff.1 here
  calc
    session.run terminal program =
        session.run terminal
          (program.take index ++ program[index] :: program.drop (index + 1)) := by
      rw [← List.drop_eq_getElem_cons bound, List.take_append_drop]
    _ = (.error error, last) := by
      rw [run_append_of_ok before, run_cons_of_error failed]

end Session

section

variable {σ τ : Type}

theorem mapError_id {α : Type} (result : Except RuntimeError α) : result.mapError id = result := by
  cases result <;> rfl

-- What commutes with the execution of any one statement commutes with a run.
theorem Session.run_image {image : Terminal τ} {terminal : Terminal σ}
    {onSession : Session σ -> Session τ} {onStatement : Stmt -> Stmt}
    {onError : RuntimeError -> RuntimeError}
    (step : ∀ session statement, (onSession session).execute image (onStatement statement) =
      ((session.execute terminal statement).1.mapError onError,
        onSession (session.execute terminal statement).2))
    (session : Session σ) (program : Program) :
    (onSession session).run image (program.map onStatement) =
      ((session.run terminal program).1.mapError onError,
        onSession (session.run terminal program).2) := by
  induction program generalizing session with
  | nil => rfl
  | cons statement rest ih =>
      have taken := step session statement
      rcases here : session.execute terminal statement with ⟨_ | _, next⟩
      · rw [here] at taken
        rw [List.map_cons, run_cons_of_error here, run_cons_of_error taken]
        rfl
      · rw [here] at taken
        rw [List.map_cons, run_cons_of_ok here, run_cons_of_ok taken, ih]

/-- One terminal replies as another, whose state it holds a view of. -/
def Terminal.Mirrors (image : Terminal τ) (terminal : Terminal σ) (view : σ -> τ) : Prop :=
  ∀ line state, image.print line (view state) =
    ((terminal.print line state).1, view (terminal.print line state).2)

def Session.through (view : σ -> τ) (session : Session σ) : Session τ :=
  { session with terminal := view session.terminal }

variable {image : Terminal τ} {terminal : Terminal σ} {view : σ -> τ}

theorem Session.execute_through (mirrors : image.Mirrors terminal view) (session : Session σ)
    (statement : Stmt) :
    (session.through view).execute image statement =
      ((session.execute terminal statement).1,
        (session.execute terminal statement).2.through view) := by
  cases known : statement.effect session.symbols with
  | error error =>
      rw [execute_of_effect_error session known, execute_of_effect_error (through view _) known]
  | ok effect =>
      cases effect with
      | store symbols => rw [execute_store session known, execute_store (through view _) known]; rfl
      | print line =>
          have seen := mirrors line session.terminal
          rcases reply : terminal.print line session.terminal with ⟨_ | cause, state⟩
          · rw [reply] at seen
            rw [execute_accepted session known reply, execute_accepted (through view _) known seen]
            rfl
          · rw [reply] at seen
            rw [execute_refused session known reply, execute_refused (through view _) known seen]
            rfl

theorem Session.run_through (mirrors : image.Mirrors terminal view) (session : Session σ)
    (program : Program) :
    (session.through view).run image program =
      ((session.run terminal program).1, (session.run terminal program).2.through view) := by
  have step (session : Session σ) (statement : Stmt) :
      (session.through view).execute image (id statement) =
        ((session.execute terminal statement).1.mapError id,
          (session.execute terminal statement).2.through view) := by
    rw [mapError_id]
    exact session.execute_through mirrors statement
  have whole := run_image step session program
  rwa [List.map_id, mapError_id] at whole

theorem Session.FailsAt.of_through (mirrors : image.Mirrors terminal view) {session : Session σ}
    {program : Program} {index : Nat} {error : RuntimeError}
    (fails : (session.through view).FailsAt image program index error) :
    session.FailsAt terminal program index error := by
  obtain ⟨middle, last, statement, before, here, failed, -⟩ := fails
  rw [run_through mirrors] at before
  obtain ⟨done, rfl⟩ := Prod.mk.inj before
  rw [execute_through mirrors] at failed
  obtain ⟨faulty, -⟩ := Prod.mk.inj failed
  have before : session.run terminal (program.take index) = (.ok (), _) := Prod.ext done rfl
  have failed : Session.execute terminal _ statement = (.error error, _) := Prod.ext faulty rfl
  exact ⟨_, _, statement, before, here, failed, run_of_execute before here failed⟩

end

section

variable {σ : Type} (terminal : Terminal σ) {source : String} (state : σ)

theorem programOfSource_of_ok {tokens : List Token} (scanned : tokenize source = .ok tokens) :
    programOfSource source = (parse tokens).mapError .parse := by
  rw [programOfSource, scanned]
  rfl

theorem programOfSource_of_error {error : LexError} (stuck : tokenize source = .error error) :
    programOfSource source = .error (.scan error) := by
  rw [programOfSource, stuck]
  rfl

theorem runSource_of_error {failure : Failure} (unread : programOfSource source = .error failure) :
    runSource terminal source state = (.error failure, { terminal := state }) := by
  simp only [runSource, Session.submit, Submission.read, unread]

theorem runSource_of_ok {program : Program} (read : programOfSource source = .ok program) :
    runSource terminal source state =
      ((Session.run terminal { terminal := state } program).1.mapError .runtime,
        (Session.run terminal { terminal := state } program).2) := by
  simp only [runSource, Session.submit, Submission.read, read]

theorem runSource_of_tokens {tokens : List Token} (scanned : tokenize source = .ok tokens) :
    runSource terminal source state =
      Session.submit terminal { terminal := state } (.tokens tokens) := by
  simp only [runSource, Session.submit, Submission.read, programOfSource_of_ok scanned,
    programOfTokens]

end

end NumScript
