import NumScript.Proofs.Runs

set_option autoImplicit false

namespace NumScript

variable {σ τ : Type}

namespace Terminal

def observed (terminal : Terminal σ) : Terminal (List PrintedLine × σ) where
  print line state :=
    ((terminal.print line state.2).1, (state.1 ++ [line], (terminal.print line state.2).2))

def replies (terminal : Terminal σ) (state : σ) : List PrintedLine -> List Reply
  | [] => []
  | line :: rest =>
      (terminal.print line state).1 :: terminal.replies (terminal.print line state).2 rest

def offer (terminal : Terminal σ) (state : σ) : List PrintedLine -> Except RuntimeError Unit × σ
  | [] => (.ok (), state)
  | line :: rest =>
      match terminal.print line state with
      | (.accepted, next) => terminal.offer next rest
      | (.refused cause, next) => (.error (.output cause line.line), next)

theorem offer_cons_accepted {terminal : Terminal σ} {line : PrintedLine} {state next : σ}
    (reply : terminal.print line state = (.accepted, next)) (rest : List PrintedLine) :
    terminal.offer state (line :: rest) = terminal.offer next rest := by
  simp only [offer, reply]

theorem offer_cons_refused {terminal : Terminal σ} {line : PrintedLine} {state next : σ}
    {cause : String} (reply : terminal.print line state = (.refused cause, next))
    (rest : List PrintedLine) :
    terminal.offer state (line :: rest) = (.error (.output cause line.line), next) := by
  simp only [offer, reply]

theorem observed_print {terminal : Terminal σ} {line : PrintedLine} {state : σ} {reply : Reply}
    (first : (terminal.print line state).1 = reply) (before : List PrintedLine) :
    terminal.observed.print line (before, state) =
      (reply, (before ++ [line], (terminal.print line state).2)) := by
  rw [← first]
  rfl

theorem mirrors_observed (terminal : Terminal σ) : terminal.Mirrors terminal.observed Prod.snd :=
  fun _ _ => rfl

theorem offer_observed_of_accepted (terminal : Terminal σ) (state : σ)
    (before lines : List PrintedLine)
    (all : ∀ reply ∈ terminal.replies state lines, reply = .accepted) :
    ∃ last, terminal.observed.offer (before, state) lines = (.ok (), (before ++ lines, last)) := by
  induction lines generalizing state before with
  | nil => exact ⟨state, by rw [List.append_nil, offer]⟩
  | cons line rest ih =>
      obtain ⟨first, others⟩ := List.forall_mem_cons.1 all
      obtain ⟨last, same⟩ := ih (terminal.print line state).2 (before ++ [line]) others
      refine ⟨last, ?_⟩
      rw [offer_cons_accepted (observed_print first before), same, List.append_assoc,
        List.singleton_append]

theorem offer_observed_of_refused (terminal : Terminal σ) (state : σ)
    (before lines : List PrintedLine) {index : Nat} {cause : String}
    (refused : (terminal.replies state lines)[index]? = some (.refused cause))
    (earlier : ∀ other < index, (terminal.replies state lines)[other]? = some .accepted) :
    ∃ line last, lines[index]? = some line ∧
      terminal.observed.offer (before, state) lines =
        (.error (.output cause line.line), (before ++ lines.take (index + 1), last)) := by
  induction lines generalizing state before index with
  | nil => cases refused
  | cons line rest ih =>
      cases index with
      | zero =>
          have first : (terminal.print line state).1 = .refused cause := Option.some.inj refused
          refine ⟨line, (terminal.print line state).2, rfl, ?_⟩
          rw [offer_cons_refused (observed_print first before)]
          rfl
      | succ index =>
          have first : (terminal.print line state).1 = .accepted :=
            Option.some.inj (earlier 0 (Nat.succ_pos index))
          obtain ⟨found, last, here, same⟩ :=
            ih (terminal.print line state).2 (before ++ [line]) refused
              (fun other less => earlier (other + 1) (Nat.succ_lt_succ less))
          refine ⟨found, last, here, ?_⟩
          rw [offer_cons_accepted (observed_print first before), same, List.take_succ_cons,
            List.append_assoc, List.singleton_append]

end Terminal

namespace Session

def withTerminal (session : Session σ) (state : τ) : Session τ :=
  { session with terminal := state }

def watched (session : Session σ) : Session (List PrintedLine × σ) :=
  session.withTerminal ([], session.terminal)

/-- What a program comes to where every line is accepted and kept. -/
def reference (session : Session σ) (program : Program) :
    Except RuntimeError Unit × Session (List PrintedLine) :=
  (session.withTerminal []).run .recorder program

theorem run_recorder (session : Session σ) (program : Program) (before : List PrintedLine) :
    (session.withTerminal before).run .recorder program =
      ((session.reference program).1,
        (session.reference program).2.withTerminal
          (before ++ (session.reference program).2.terminal)) := by
  have mirrors : Terminal.recorder.Mirrors .recorder (before ++ ·) := by
    intro line lines
    simp [Terminal.recorder]
  have seen := (session.withTerminal []).run_through mirrors program
  simpa [through, withTerminal, reference] using seen

section

variable {session : Session σ} {statement : Stmt}

theorem reference_of_error {error : RuntimeError}
    (known : statement.effect session.symbols = .error error) (rest : Program) :
    session.reference (statement :: rest) = (.error error, session.withTerminal []) :=
  run_cons_of_error (execute_of_effect_error (session.withTerminal []) known) rest

theorem reference_of_store {symbols : Symbols}
    (known : statement.effect session.symbols = .ok (.store symbols)) (rest : Program) :
    session.reference (statement :: rest) =
      reference { session with symbols, executed := session.executed + 1 } rest :=
  run_cons_of_ok (execute_store (session.withTerminal []) known) rest

theorem reference_of_print {line : PrintedLine}
    (known : statement.effect session.symbols = .ok (.print line)) (state : σ) (rest : Program) :
    session.reference (statement :: rest) =
      let later :=
        reference { session with terminal := state, executed := session.executed + 1 } rest
      (later.1, later.2.withTerminal (line :: later.2.terminal)) := by
  let next := { session with terminal := state, executed := session.executed + 1 }
  calc
    session.reference (statement :: rest) = (next.withTerminal [line]).run .recorder rest :=
      run_cons_of_ok (execute_accepted (session.withTerminal []) known rfl) rest
    _ = _ := next.run_recorder rest [line]

end

theorem run_offer (terminal : Terminal σ) (session : Session σ) (program : Program) :
    match terminal.offer session.terminal (session.reference program).2.terminal with
    | (.ok (), state) =>
        session.run terminal program =
          ((session.reference program).1, (session.reference program).2.withTerminal state)
    | (.error error, state) =>
        (session.run terminal program).1 = .error error ∧
          (session.run terminal program).2.terminal = state := by
  induction program generalizing session with
  | nil => rfl
  | cons statement rest ih =>
      cases known : statement.effect session.symbols with
      | error error =>
          rw [reference_of_error known, run_cons_of_error (execute_of_effect_error session known)]
          rfl
      | ok effect =>
          cases effect with
          | store symbols =>
              rw [reference_of_store known, run_cons_of_ok (execute_store session known)]
              exact ih { session with symbols, executed := session.executed + 1 }
          | print line =>
              rcases reply : terminal.print line session.terminal with ⟨_ | cause, state⟩
              · rw [reference_of_print known state,
                  run_cons_of_ok (execute_accepted session known reply)]
                simp only [withTerminal, Terminal.offer_cons_accepted reply]
                exact ih { session with terminal := state, executed := session.executed + 1 }
              · rw [reference_of_print known state,
                  run_cons_of_error (execute_refused session known reply)]
                simp [withTerminal, Terminal.offer_cons_refused reply]

theorem run_of_accepted {terminal : Terminal σ} (session : Session σ) {program : Program} {last : σ}
    (accepted : terminal.offer session.terminal (session.reference program).2.terminal =
      (.ok (), last)) :
    session.run terminal program =
      ((session.reference program).1, (session.reference program).2.withTerminal last) := by
  have offered := run_offer terminal session program
  rw [accepted] at offered
  exact offered

theorem run_of_refused {terminal : Terminal σ} (session : Session σ) {program : Program} {last : σ}
    {error : RuntimeError}
    (refused : terminal.offer session.terminal (session.reference program).2.terminal =
      (.error error, last)) :
    (session.run terminal program).1 = .error error ∧
      (session.run terminal program).2.terminal = last := by
  have offered := run_offer terminal session program
  rw [refused] at offered
  exact offered

def unobserved (outcome : Except RuntimeError Unit × Session (List PrintedLine × σ)) :
    Except RuntimeError Unit × Session σ :=
  (outcome.1, outcome.2.withTerminal outcome.2.terminal.2)

theorem run_observed (terminal : Terminal σ) (session : Session σ) (program : Program)
    (before : List PrintedLine) :
    unobserved ((session.withTerminal (before, session.terminal)).run terminal.observed program) =
      session.run terminal program := by
  have seen := (session.withTerminal (before, session.terminal)).run_through
    terminal.mirrors_observed program
  exact seen.symm

end Session

def printedLines (source : String) : List PrintedLine :=
  (runSource .recorder source []).2.terminal

def offeredLines (terminal : Terminal σ) (source : String) (state : σ) : List PrintedLine :=
  (runSource terminal.observed source ([], state)).2.terminal.1

section

variable {terminal : Terminal σ} {source : String} {state last : σ}

theorem printedLines_of_error {failure : Failure}
    (unread : programOfSource source = .error failure) : printedLines source = [] := by
  rw [printedLines, runSource_of_error _ _ unread]

theorem printedLines_of_ok {program : Program} (read : programOfSource source = .ok program)
    (state : σ) :
    printedLines source = (Session.reference { terminal := state } program).2.terminal := by
  rw [printedLines, runSource_of_ok _ _ read]
  rfl

theorem runSource_of_accepted
    (accepted : terminal.offer state (printedLines source) = (.ok (), last)) :
    runSource terminal source state =
      ((runSource .recorder source []).1, (runSource .recorder source []).2.withTerminal last) := by
  cases read : programOfSource source with
  | error failure =>
      rw [printedLines_of_error read] at accepted
      cases accepted
      rw [runSource_of_error terminal state read, runSource_of_error .recorder [] read]
      rfl
  | ok program =>
      rw [printedLines_of_ok read state] at accepted
      rw [runSource_of_ok terminal state read, runSource_of_ok .recorder [] read,
        Session.run_of_accepted { terminal := state } accepted]
      rfl

theorem runSource_of_refused {error : RuntimeError}
    (refused : terminal.offer state (printedLines source) = (.error error, last)) :
    (runSource terminal source state).1 = .error (.runtime error) ∧
      (runSource terminal source state).2.terminal = last := by
  cases read : programOfSource source with
  | error failure =>
      rw [printedLines_of_error read] at refused
      cases refused
  | ok program =>
      rw [printedLines_of_ok read state] at refused
      obtain ⟨failed, left⟩ :=
        Session.run_of_refused { terminal := state } refused
      rw [runSource_of_ok terminal state read]
      exact ⟨by rw [failed]; rfl, left⟩

end

theorem runSource_observed (terminal : Terminal σ) (source : String) (state : σ) :
    let watched := runSource terminal.observed source ([], state)
    runSource terminal source state = (watched.1, watched.2.withTerminal watched.2.terminal.2) := by
  cases read : programOfSource source with
  | error failure =>
      rw [runSource_of_error terminal state read, runSource_of_error terminal.observed _ read]
      rfl
  | ok program =>
      rw [runSource_of_ok terminal state read, runSource_of_ok terminal.observed _ read,
        ← Session.run_observed terminal { terminal := state } program []]
      rfl

theorem output_on_any_terminal (terminal : Terminal σ) (source : String) (state : σ) :
    ((∀ reply ∈ terminal.replies state (printedLines source), reply = .accepted) →
      offeredLines terminal source state = printedLines source ∧
        (runSource terminal source state).1 = (runSource .recorder source []).1) ∧
    (∀ index cause, (terminal.replies state (printedLines source))[index]? = some (.refused cause) →
      (∀ earlier < index,
        (terminal.replies state (printedLines source))[earlier]? = some .accepted) →
      ∃ line, (printedLines source)[index]? = some line ∧
        offeredLines terminal source state = (printedLines source).take (index + 1) ∧
        (runSource terminal source state).1 = .error (.runtime (.output cause line.line))) ∧
    (∀ failure, programOfSource source = .error failure →
      printedLines source = [] ∧ offeredLines terminal source state = [] ∧
        (runSource terminal source state).1 = .error failure) ∧
    (runSource terminal source state).1 = (runSource terminal.observed source ([], state)).1 ∧
    (runSource terminal source state).2.terminal =
      (runSource terminal.observed source ([], state)).2.terminal.2 := by
  have unwatched := runSource_observed terminal source state
  refine ⟨?_, ?_, ?_, congrArg Prod.fst unwatched,
    congrArg (fun outcome => outcome.2.terminal) unwatched⟩
  · intro all
    obtain ⟨last, accepted⟩ := terminal.offer_observed_of_accepted state [] _ all
    rw [unwatched, offeredLines, runSource_of_accepted accepted]
    exact ⟨rfl, rfl⟩
  · intro index cause here earlier
    obtain ⟨line, last, found, refused⟩ :=
      terminal.offer_observed_of_refused state [] _ here earlier
    obtain ⟨failed, left⟩ := runSource_of_refused refused
    refine ⟨line, found, ?_, ?_⟩
    · rw [offeredLines, left]
      rfl
    · rw [unwatched]
      exact failed
  · intro failure unread
    rw [offeredLines, runSource_of_error terminal.observed _ unread,
      runSource_of_error terminal state unread]
    exact ⟨printedLines_of_error unread, rfl, rfl⟩

def threePrints : String :=
  "imprimir(1);\nimprimir(2);\nimprimir(3);"

theorem output_on_any_terminal_second_refused :
    ∃ line, (printedLines threePrints)[1]? = some line ∧
      offeredLines (.selective [2]) threePrints {} = (printedLines threePrints).take 2 ∧
      (runSource (.selective [2]) threePrints {}).1 =
        .error (.runtime (.output "line refused" line.line)) := by
  have replies : Terminal.replies (.selective [2]) {} (printedLines threePrints) =
      [.accepted, .refused "line refused", .accepted] := by
    decide +kernel
  refine (output_on_any_terminal (.selective [2]) threePrints {}).2.1 1 "line refused" ?_ ?_
  · rw [replies]
    rfl
  · intro earlier less
    rw [replies, Nat.lt_one_iff.1 less]
    rfl

end NumScript
