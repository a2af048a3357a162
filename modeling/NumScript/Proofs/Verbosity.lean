import Mathlib.Data.List.Basic
import NumScript.Command
import NumScript.Proofs.FailedRuns

set_option autoImplicit false

namespace NumScript

namespace Request

def flags (argument : String) : Nat :=
  match argument.toList with
  | '-' :: '-' :: word => if word = "verbose".toList then 1 else 0
  | '-' :: letter :: rest => (letter :: rest).count 'v'
  | _ => 0

def flagCount (arguments : List String) : Nat :=
  (arguments.takeWhile (fun argument => argument != "--")).foldl
    (fun count argument => count + flags argument) 0

/-- A verbosity is reached, or what was decided is not a run. -/
def Step.Reaches (verbosity : Nat) : Step -> Prop
  | next settings => settings.verbosity = verbosity
  | decided request => ∀ path count, request ≠ .run path count

theorem readLetters_reaches (settings : Settings) (letters : List Char) :
    (readLetters settings letters).Reaches (settings.verbosity + letters.count 'v') := by
  fun_induction readLetters settings letters with
  | case1 settings => rfl
  | case2 settings rest ih =>
      rw [List.count_cons_self, Nat.add_comm (rest.count 'v'), ← Nat.add_assoc]
      exact ih
  | case3 | case4 | case5 => nofun

theorem readWord_reaches (settings : Settings) (word : List Char) :
    (readWord settings word).Reaches
      (settings.verbosity + if word = "verbose".toList then 1 else 0) := by
  fun_cases readWord settings word with
  | case1 verbose => rw [if_pos verbose]; rfl
  | case2 | case3 | case4 => nofun

theorem readPath_reaches (settings : Settings) (argument : String) :
    (readPath settings argument).Reaches settings.verbosity := by
  fun_cases readPath settings argument with
  | case1 => nofun
  | case2 => rfl

theorem readArgument_reaches (settings : Settings) (argument : String) :
    (readArgument settings argument).Reaches (settings.verbosity + flags argument) := by
  fun_cases readArgument settings argument with
  | case1 word shape =>
      simp only [flags, shape]
      exact readWord_reaches settings word
  | case2 letter rest single shape =>
      simp only [flags, shape]
      exact readLetters_reaches settings (letter :: rest)
  | case3 =>
      simp only [flags]
      exact readPath_reaches settings argument

theorem readAll_reaches {reader : Settings -> String -> Step} (raise : Nat -> String -> Nat)
    (step : ∀ settings argument,
      (reader settings argument).Reaches (raise settings.verbosity argument))
    (settings : Settings) (arguments : List String) :
    (readAll reader settings arguments).Reaches (arguments.foldl raise settings.verbosity) := by
  induction arguments generalizing settings with
  | nil => rfl
  | cons argument rest ih =>
      have taken := step settings argument
      cases read : reader settings argument with
      | next settings =>
          rw [read, Step.Reaches] at taken
          rw [readAll, read, List.foldl_cons, ← taken]
          exact ih settings
      | decided request =>
          rw [read] at taken
          rw [readAll, read]
          exact taken

theorem readOptions_reaches (options : List String) :
    (readAll readArgument {} options).Reaches
      (options.foldl (fun count option => count + flags option) 0) :=
  readAll_reaches (fun count option => count + flags option) readArgument_reaches {} options

theorem readPaths_reaches (settings : Settings) (paths : List String) :
    (readAll readPath settings paths).Reaches settings.verbosity := by
  have reaches := readAll_reaches (fun count _ => count) readPath_reaches settings paths
  rwa [List.foldl_fixed] at reaches

theorem verbosity_of_finish {settings : Settings} {path : String} {verbosity : Nat}
    (finished : finish settings = .run path verbosity) : settings.verbosity = verbosity := by
  rw [finish] at finished
  split at finished
  next =>
    cases finished
    rfl
  next => cases finished

theorem flagCount_of_run {arguments : List String} {path : String} {verbosity : Nat}
    (asked : ofArguments arguments = .run path verbosity) : verbosity = flagCount arguments := by
  have options := readOptions_reaches (arguments.takeWhile (fun argument => argument != "--"))
  rw [ofArguments] at asked
  split at asked
  next request decided =>
    rw [decided] at options
    exact absurd asked (options path verbosity)
  next settings read =>
    rw [read] at options
    have paths := readPaths_reaches settings
      (arguments.dropWhile (fun argument => argument != "--")).tail
    split at asked
    next request decided =>
      rw [decided] at paths
      exact absurd asked (paths path verbosity)
    next last done =>
      rw [done] at paths
      exact (verbosity_of_finish asked).symm.trans (paths.trans options)

theorem ofArguments_flagged (count : Nat) {path : String} (named : path ≠ "") :
    ofArguments (List.replicate count "-v" ++ ["--", path]) = .run path count := by
  have flag (settings : Settings) :
      readArgument settings "-v" =
        .next { settings with verbosity := settings.verbosity + 1 } := rfl
  have read (settings : Settings) :
      readAll readArgument settings (List.replicate count "-v") =
        .next { settings with verbosity := settings.verbosity + count } := by
    induction count generalizing settings with
    | zero => rfl
    | succ count ih =>
        rw [List.replicate_succ, readAll, flag]
        simp only [ih, Nat.add_assoc, Nat.add_comm 1]
  have plain : ∀ argument ∈ List.replicate count "-v", (argument != "--") = true := by
    intro argument member
    rw [List.eq_of_mem_replicate member]
    rfl
  rw [ofArguments, List.takeWhile_append_of_pos plain, List.dropWhile_append_of_pos plain]
  simp [read, readAll, readPath, named, finish]

end Request

def Session.steps {σ : Type} (terminal : Terminal σ) (session : Session σ) : Program -> List Event
  | [] => []
  | statement :: rest =>
      .executing statement.line ::
        match session.execute terminal statement with
        | (.ok (), next) => next.steps terminal rest
        | (.error _, _) => []

section

variable {σ : Type} {terminal : Terminal σ} {session next : Session σ} {statement : Stmt}

theorem Session.steps_cons_of_ok (done : session.execute terminal statement = (.ok (), next))
    (rest : Program) :
    session.steps terminal (statement :: rest) =
      .executing statement.line :: next.steps terminal rest := by
  simp only [steps, done]

theorem Session.steps_cons_of_error {error : RuntimeError}
    (failed : session.execute terminal statement = (.error error, next)) (rest : Program) :
    session.steps terminal (statement :: rest) = [.executing statement.line] := by
  simp only [steps, failed]

theorem Session.executed_of_ok (done : session.execute terminal statement = (.ok (), next)) :
    next.executed = session.executed + 1 := by
  rcases execute_eq_ok done with ⟨_, -, rfl⟩ | ⟨_, _, -, -, rfl⟩ <;> rfl

-- Counting what completed tells how far the run has come.
theorem Session.steps_eq (terminal : Terminal σ) (session : Session σ) (program : Program) :
    match session.run terminal program with
    | (.ok (), last) =>
        last.executed = session.executed + program.length ∧
          session.steps terminal program =
            program.map (fun statement => .executing statement.line)
    | (.error _, last) =>
        ∃ count, last.executed = session.executed + count ∧
          session.steps terminal program =
            (program.take (count + 1)).map (fun statement => .executing statement.line) := by
  induction program generalizing session with
  | nil => exact ⟨rfl, rfl⟩
  | cons statement rest ih =>
      rcases taken : session.execute terminal statement with ⟨error | _, next⟩
      · rw [run_cons_of_error taken, steps_cons_of_error taken]
        exact ⟨0, (symbols_of_failed taken).2, rfl⟩
      · have later := ih next
        rw [executed_of_ok taken] at later
        rw [run_cons_of_ok taken, steps_cons_of_ok taken]
        rcases whole : next.run terminal rest with ⟨error | _, last⟩
        · rw [whole] at later
          obtain ⟨count, executed, same⟩ := later
          exact ⟨count + 1, by rw [executed]; omega, by rw [same]; rfl⟩
        · rw [whole] at later
          obtain ⟨executed, same⟩ := later
          exact ⟨by rw [executed, List.length_cons]; omega, by rw [same]; rfl⟩

end

namespace Event

def reading (tokens : List Token) : List Event :=
  (attempts (closing tokens) (body tokens)).filterMap (fun attempt => attempt.error?.map refused) ++
    match parse tokens with
    | .ok program => [parsed program.length]
    | .error errors => [unparsed errors.length]

theorem ofParse_parse (tokens : List Token) : ofParse (parse tokens) = reading tokens := by
  simp only [reading, ← List.map_filterMap, parse]
  cases (attempts (closing tokens) (body tokens)).filterMap Attempt.error? with
  | nil => rfl
  | cons error rest => rfl

def running (program : Program) : List Event :=
  let session : Session (List PrintedLine) := { terminal := [] }
  starting program.length :: session.steps .recorder program ++
    match session.run .recorder program with
    | (.ok (), last) => [executed last.executed last.symbols.size]
    | (.error _, _) => []

theorem ofRun_run (program : Program) :
    ofRun program (Session.run .recorder { terminal := [] } program) = running program := by
  have steps := Session.steps_eq .recorder { terminal := [] } program
  simp only [running, ofRun]
  rcases whole : Session.run .recorder { terminal := [] } program with ⟨error | _, last⟩
  · rw [whole] at steps
    obtain ⟨count, reached, same⟩ := steps
    simp [same, reached]
  · rw [whole] at steps
    obtain ⟨reached, same⟩ := steps
    simp [same, reached]

def emitted (source : String) : List Event :=
  let scan := Scan.ofSource source
  scan.tokens.map scanned ++
    match scan.finish with
    | .error _ => []
    | .ok tokens =>
        tokenized tokens.length scan.line :: reading tokens ++
          match parse tokens with
          | .error _ => []
          | .ok program => running program

end Event

def written (lines : List PrintedLine) : String :=
  String.join (lines.map (fun line => line.text ++ "\n"))

theorem mirrors_written : Terminal.stream.Mirrors .recorder written := by
  intro line lines
  simp [Terminal.stream, Terminal.recorder, written, String.append_assoc]

theorem Event.ofRun_stream (program : Program) :
    ofRun program (Session.run .stream { terminal := "" } program) = running program := by
  have seen := Session.run_through mirrors_written { terminal := [] } program
  exact (congrArg (ofRun program) seen).trans (ofRun_run program)

theorem Event.ofSource_stream (source : String) : ofSource .stream source "" = emitted source := by
  simp only [ofSource, emitted, ofScan, tokenize, ofParse_parse, ofRun_stream]
  cases (Scan.ofSource source).finish with
  | error => simp
  | ok tokens =>
      dsimp only
      cases parse tokens <;> simp

theorem runSource_stream (source : String) :
    runSource .stream source "" =
      ((runSource .recorder source []).1,
        (runSource .recorder source []).2.through written) := by
  cases read : programOfSource source with
  | error failure =>
      rw [runSource_of_error _ _ read, runSource_of_error _ _ read]
      rfl
  | ok program =>
      have seen := Session.run_through mirrors_written { terminal := [] } program
      rw [runSource_of_ok _ _ read, runSource_of_ok _ _ read]
      exact congrArg (fun outcome => (outcome.1.mapError Failure.runtime, outcome.2)) seen

/-- Everything that a run of the command notes, shown or not. -/
def journal (path source : String) : List Note :=
  .event (.opening path) :: (Event.emitted source).map .event ++
    Command.closingNotes (runSource .recorder source []).1

theorem Command.runText_eq (path source : String) (verbosity : Nat) :
    runText path source verbosity =
      { status := statusOf (runSource .recorder source []).1
        output := written (printedLines source)
        notes := renderNotes verbosity (journal path source) } := by
  simp only [runText, runSource_stream, Event.ofSource_stream]
  rfl

theorem Request.respond_run {read : String -> Except ReadFault ByteArray} {path source : String}
    {content : ByteArray} (readable : read path = .ok content)
    (text : String.fromUTF8? content = some source) (verbosity : Nat) :
    (run path verbosity).respond read = Command.runText path source verbosity := by
  simp only [respond, Command.runFile, readable, Except.bind, Command.decode, text]

theorem Command.statusOf_eq_zero_iff {result : Except Failure Unit} :
    statusOf result = 0 ↔ result = .ok () := by
  cases result with
  | ok => simp [statusOf]
  | error => simp [statusOf, failureStatus]

theorem Command.statusOf_of_ne_zero {result : Except Failure Unit} (failed : statusOf result ≠ 0) :
    statusOf result = 74 := by
  cases result with
  | ok => exact absurd rfl failed
  | error => rfl

section

variable {low high : Nat} (le : low ≤ high)

include le

theorem Severity.shown_of_le {severity : Severity} (visible : severity.shown low = true) :
    severity.shown high = true := by
  cases severity <;> simp only [shown, decide_eq_true_eq] at * <;> omega

theorem Note.shown_of_le {note : Note} (visible : note.shown low = true) :
    note.shown high = true := by
  cases note with
  | event => exact Severity.shown_of_le le visible
  | plain => rfl

theorem filter_shown_of_le (notes : List Note) :
    (notes.filter (Note.shown high)).filter (Note.shown low) = notes.filter (Note.shown low) := by
  rw [List.filter_filter]
  refine List.filter_congr ?_
  intro note _
  rw [Bool.and_eq_left_iff_imp]
  exact Note.shown_of_le le

end

theorem Note.shown_zero_event (event : Event) : (Note.event event).shown 0 = false := by
  cases event <;> rfl

theorem renderNotes_zero_journal (path source : String) :
    renderNotes 0 (journal path source) =
      match (runSource .recorder source []).1 with
      | .ok () => ""
      | .error failure => failure.message ++ "\n" ++ "Execution failed.\n" := by
  have silent (events : List Event) : (events.map Note.event).filter (Note.shown 0) = [] := by
    simp [Note.shown_zero_event]
  rw [journal, renderNotes, ← List.map_cons, List.filter_append, silent, List.nil_append]
  cases (runSource .recorder source []).1 with
  | ok => rfl
  | error failure =>
      change String.join [failure.message ++ "\n", "Execution failed.\n"] = _
      simp

theorem verbosity_only_adds_log_lines {read : String -> Except ReadFault ByteArray}
    {fewer more : List String} {path source : String} {low high : Nat} {content : ByteArray}
    (asked : Request.ofArguments fewer = .run path low)
    (askedMore : Request.ofArguments more = .run path high) (le : low ≤ high)
    (readable : read path = .ok content) (text : String.fromUTF8? content = some source) :
    let quiet := (Request.ofArguments fewer).respond read
    let loud := (Request.ofArguments more).respond read
    let result := (runSource .recorder source []).1
    let shown := (journal path source).filter (Note.shown high)
    low = Request.flagCount fewer ∧ high = Request.flagCount more ∧
      quiet.status = loud.status ∧ quiet.output = loud.output ∧
      (quiet.status = 0 ↔ result = .ok ()) ∧ (quiet.status ≠ 0 → quiet.status = 74) ∧
      quiet.output = String.join ((printedLines source).map (fun line => line.text ++ "\n")) ∧
      loud.notes = String.join (shown.map Note.render) ∧
      quiet.notes = String.join ((shown.filter (Note.shown low)).map Note.render) ∧
      (low = 0 → quiet.notes =
        match result with
        | .ok () => ""
        | .error failure => failure.message ++ "\n" ++ "Execution failed.\n") := by
  rw [asked, askedMore, Request.respond_run readable text, Request.respond_run readable text,
    Command.runText_eq, Command.runText_eq]
  simp only [filter_shown_of_le le]
  refine ⟨Request.flagCount_of_run asked, Request.flagCount_of_run askedMore, trivial, trivial,
    Command.statusOf_eq_zero_iff, Command.statusOf_of_ne_zero, rfl, rfl, rfl, ?_⟩
  rintro rfl
  exact renderNotes_zero_journal path source

def undeclaredSecond : String :=
  "imprimir(2);\nimprimir(x);"

def anyFile (_ : String) : Except ReadFault ByteArray :=
  .ok undeclaredSecond.toUTF8

theorem verbosity_only_adds_log_lines_undeclared :
    let answer (arguments : List String) := (Request.ofArguments arguments).respond anyFile
    let quiet := answer ["--", "a"]
    let loud := answer ["-v", "-v", "--", "a"]
    quiet.status = 74 ∧ loud.status = 74 ∧ quiet.output = "2\n" ∧ loud.output = "2\n" ∧
      quiet.notes =
        String.join ["Runtime error: variable 'x' is not declared [line 2]\n",
          "Execution failed.\n"] ∧
      loud.notes =
        String.join [" INFO executing file file=a\n",
          "DEBUG tokenized source tokens=11 lines=2\n", "DEBUG parsed program statements=2\n",
          "DEBUG executing program statements=2\n",
          "Runtime error: variable 'x' is not declared [line 2]\n", "Execution failed.\n"] := by
  have failed : (runSource .recorder undeclaredSecond []).1 =
      .error (.runtime (.undeclared "x" 2)) := by
    decide +kernel
  have printed : printedLines undeclaredSecond = [⟨"2", 1⟩] := by decide +kernel
  have noted : ((journal "a" undeclaredSecond).filter (Note.shown 2)).map Note.render =
      [" INFO executing file file=a\n", "DEBUG tokenized source tokens=11 lines=2\n",
        "DEBUG parsed program statements=2\n", "DEBUG executing program statements=2\n",
        "Runtime error: variable 'x' is not declared [line 2]\n", "Execution failed.\n"] := by
    decide +kernel
  have readable : anyFile "a" = .ok undeclaredSecond.toUTF8 := rfl
  have text : String.fromUTF8? undeclaredSecond.toUTF8 = some undeclaredSecond := by
    decide +kernel
  obtain ⟨-, -, status, same, succeeded, otherwise, output, loud, -, quiet⟩ :=
    verbosity_only_adds_log_lines (Request.ofArguments_flagged 0 (by decide : "a" ≠ ""))
      (Request.ofArguments_flagged 2 (by decide : "a" ≠ "")) (Nat.zero_le 2) readable text
  rw [failed] at succeeded quiet
  rw [printed] at output
  rw [noted] at loud
  have ended := otherwise (mt succeeded.1 (by simp))
  exact ⟨ended, status.symm.trans ended, output, same.symm.trans output, quiet rfl, loud⟩

end NumScript
