import NumScript.Proofs.History
import NumScript.Proofs.Lines.Order
import NumScript.Proofs.Reading.Sources

set_option autoImplicit false

namespace NumScript

open Grammar

/-- What keywords and semicolons say: the lines to print, the names to declare, the statements. -/
structure Accounts (tokens : List Token) (lines : List Nat) (names statements : Nat) : Prop where
  lines : (tokens.filter (fun token => token.kind = .print)).map Token.line = lines
  names : tokens.countP (fun token => token.kind = .declare) = names
  statements : tokens.countP (fun token => token.kind = .semicolon) = statements

/-- The tokens up to and including the semicolon with the given number, counted from one. -/
def throughSemicolons : Nat -> List Token -> List Token
  | 0, _ => []
  | _ + 1, [] => []
  | count + 1, token :: rest =>
      token :: throughSemicolons (if token.kind = .semicolon then count else count + 1) rest

@[simp] theorem throughSemicolons_zero (tokens : List Token) : throughSemicolons 0 tokens = [] := by
  rw [throughSemicolons]

theorem prefix_throughSemicolons (count : Nat) (tokens : List Token) :
    throughSemicolons count tokens <+: tokens := by
  induction tokens generalizing count with
  | nil => cases count <;> exact List.prefix_refl []
  | cons token rest ih =>
      cases count with
      | zero => exact List.nil_prefix
      | succ count => exact List.cons_prefix_cons.2 ⟨rfl, ih _⟩

theorem throughSemicolons_append {before : List Token} {mark : Token}
    (plain : ∀ token ∈ before, token.kind ≠ .semicolon) (kind : mark.kind = .semicolon)
    (count : Nat) (rest : List Token) :
    throughSemicolons (count + 1) (before ++ [mark] ++ rest) =
      before ++ [mark] ++ throughSemicolons count rest := by
  induction before with
  | nil => simp [throughSemicolons, kind]
  | cons token before ih =>
      obtain ⟨other, plain⟩ := List.forall_mem_cons.1 plain
      simp only [List.cons_append, throughSemicolons, if_neg other, ih plain]

def TokenKind.accounted (kind : TokenKind) : Bool :=
  kind.startsStatement || kind = .semicolon

namespace Accounts

theorem append {before after : List Token} {first second : List Nat}
    {names more statements others : Nat} (one : Accounts before first names statements)
    (other : Accounts after second more others) :
    Accounts (before ++ after) (first ++ second) (names + more) (statements + others) where
  lines := by rw [List.filter_append, List.map_append, one.lines, other.lines]
  names := by rw [List.countP_append, one.names, other.names]
  statements := by rw [List.countP_append, one.statements, other.statements]

theorem of_unaccounted {tokens : List Token}
    (plain : ∀ token ∈ tokens, token.kind.accounted = false) : Accounts tokens [] 0 0 := by
  have kinds : ∀ token ∈ tokens,
      token.kind ≠ .declare ∧ token.kind ≠ .print ∧ token.kind ≠ .semicolon := by
    intro token member
    simpa [TokenKind.accounted, TokenKind.startsStatement, and_assoc] using plain token member
  constructor
  · rw [List.map_eq_nil_iff, List.filter_eq_nil_iff]
    simpa using fun token member => (kinds token member).2.1
  · rw [List.countP_eq_zero]
    simpa using fun token member => (kinds token member).1
  · rw [List.countP_eq_zero]
    simpa using fun token member => (kinds token member).2.2

end Accounts

namespace Grammar

theorem Sign.accounted {rank : Rank} {kind : TokenKind} {op : BinOp} (sign : Sign rank kind op) :
    kind.accounted = false := by
  cases sign <;> rfl

theorem Phrase.accounted {rank : Rank} {tokens : List Token} {expression : Expr}
    (phrase : Phrase rank tokens expression) :
    ∀ token ∈ tokens, token.kind.accounted = false := by
  induction phrase with
  | number kind | name kind =>
      rw [List.forall_mem_singleton, kind]
      rfl
  | parenthesized opens _ closes ih =>
      rw [List.forall_mem_cons, List.forall_mem_append, List.forall_mem_singleton, opens, closes]
      exact ⟨rfl, ih, rfl⟩
  | operand _ ih | product _ ih => exact ih
  | times _ sign _ ihFirst ihSecond | plus _ sign _ ihFirst ihSecond =>
      rw [List.forall_mem_append, List.forall_mem_cons]
      exact ⟨ihFirst, sign.accounted, ihSecond⟩

theorem Statement.accounts {tokens : List Token} {statement : Stmt}
    (sentence : Statement tokens statement) :
    Accounts tokens statement.printing?.toList statement.declared?.toList.length 1 := by
  cases sentence with
  | @declaration keyword name equals semicolon tokens expression begins called gives phrase ends =>
      have value := Accounts.of_unaccounted phrase.accounted
      constructor <;>
        simp [begins, called, gives, ends, value.lines, value.names, value.statements,
          Stmt.printing?, Stmt.declared?]
  | @print keyword opening closing semicolon tokens expression begins opens phrase closes ends =>
      have value := Accounts.of_unaccounted phrase.accounted
      constructor <;>
        simp [begins, opens, closes, ends, value.lines, value.names, value.statements,
          Stmt.printing?, Stmt.declared?]
  | assignment target gives phrase ends =>
      have place := Accounts.of_unaccounted target.phrase.accounted
      have value := Accounts.of_unaccounted phrase.accounted
      constructor <;>
        simp [gives, ends, place.lines, place.names, place.statements, value.lines, value.names,
          value.statements, Stmt.printing?, Stmt.declared?]
  | @evaluation first semicolon rest expression phrase ends =>
      have value := Accounts.of_unaccounted phrase.accounted
      have mark : Accounts [semicolon] [] 0 1 := by
        constructor <;> simp [ends]
      exact value.append mark

theorem Statements.accounts {tokens : List Token} {program : Program}
    (sentences : Statements tokens program) :
    Accounts tokens (program.filterMap Stmt.printing?) (program.filterMap Stmt.declared?).length
      program.length := by
  induction sentences with
  | nil => exact ⟨rfl, rfl, rfl⟩
  | @cons tokens rest statement program first others ih =>
      have both := first.accounts.append ih
      rw [← List.length_append, Nat.add_comm] at both
      cases printing : statement.printing? <;> cases declared : statement.declared? <;>
        simpa [List.filterMap_cons, printing, declared] using both

theorem Statement.exists_semicolon {tokens : List Token} {statement : Stmt}
    (sentence : Statement tokens statement) :
    ∃ before mark, tokens = before ++ [mark] ∧ mark.kind = .semicolon := by
  cases sentence with
  | @declaration keyword name equals semicolon tokens expression _ _ _ _ ends =>
      exact ⟨keyword :: name :: equals :: tokens, semicolon, rfl, ends⟩
  | @print keyword opening closing semicolon tokens expression _ _ _ _ ends =>
      exact ⟨keyword :: opening :: (tokens ++ [closing]), semicolon, by simp, ends⟩
  | @assignment equals semicolon targets tokens name line expression _ _ _ ends =>
      exact ⟨targets ++ equals :: tokens, semicolon, by simp, ends⟩
  | @evaluation first semicolon rest expression _ ends =>
      exact ⟨first :: rest, semicolon, rfl, ends⟩

theorem Statement.throughSemicolons_succ {tokens : List Token} {statement : Stmt}
    (sentence : Statement tokens statement) (count : Nat) (rest : List Token) :
    throughSemicolons (count + 1) (tokens ++ rest) =
      tokens ++ throughSemicolons count rest := by
  have single := sentence.accounts.statements
  obtain ⟨before, mark, rfl, kind⟩ := sentence.exists_semicolon
  apply throughSemicolons_append _ kind
  rw [List.countP_append, List.countP_singleton, kind] at single
  have none : before.countP (fun token => token.kind = .semicolon) = 0 := by simpa using single
  simpa using List.countP_eq_zero.1 none

theorem Statements.take {tokens : List Token} {program : Program}
    (sentences : Statements tokens program) {count : Nat} (bound : count ≤ program.length)
    (more : List Token) :
    Statements (throughSemicolons count (tokens ++ more)) (program.take count) := by
  induction sentences generalizing count with
  | nil =>
      rw [Nat.le_zero.1 bound, throughSemicolons_zero]
      exact .nil
  | cons first others ih =>
      cases count with
      | zero =>
          rw [throughSemicolons_zero]
          exact .nil
      | succ count =>
          rw [List.append_assoc, first.throughSemicolons_succ, List.take_succ_cons]
          exact .cons first (ih (Nat.le_of_succ_le_succ bound))

end Grammar

theorem Accounts.lines_of_tokenize {source : String} {tokens part : List Token} {lines : List Nat}
    {names statements : Nat} (accounts : Accounts part lines names statements)
    (scanned : tokenize source = .ok tokens) (within : part <+: tokens) :
    lines.Pairwise (· ≤ ·) ∧ ∀ line ∈ lines, 1 ≤ line ∧ line ≤ 1 + newlines source.toList := by
  obtain ⟨ordered, bounds⟩ := NumScript.lines_of_tokenize scanned
  rw [← accounts.lines]
  have printing : (part.filter (fun token => token.kind = .print)).Sublist tokens :=
    List.filter_sublist.trans within.sublist
  constructor
  · rw [List.pairwise_map]
    exact ordered.sublist printing
  · intro line member
    obtain ⟨token, inside, rfl⟩ := List.mem_map.1 member
    exact bounds token (printing.subset inside)

theorem Terminal.recorder_logs : Terminal.recorder.Logs id where
  accepted reply := by
    cases reply
    rfl
  refused reply := by cases reply

namespace Session

-- The lines and the names are those of the statements, whatever these have computed.
theorem Recounts.accounts {session : Session (List PrintedLine)} {history : List Completion}
    {tokens : List Token} {completed : Program}
    (recounts : Recounts id { terminal := [] } history session)
    (same : history.map Completion.statement = completed)
    (sentences : Statements tokens completed) :
    Accounts tokens (session.terminal.map PrintedLine.line) session.symbols.size
      session.executed := by
  have lines : session.terminal.map PrintedLine.line = completed.filterMap Stmt.printing? := by
    have output : session.terminal = history.filterMap Completion.printed? := recounts.output
    simp only [output, ← same, List.map_filterMap, List.filterMap_map, Completion.printed?,
      Option.map_map, Function.comp_def, Option.map_id']
  have names : session.symbols.size = (completed.filterMap Stmt.declared?).length := by
    rw [← session.symbols.length_names, recounts.names, ← same, List.filterMap_map]
    rfl
  have executed : session.executed = completed.length := by
    rw [recounts.executed, ← same, List.length_map]
    exact Nat.zero_add _
  rw [lines, names, executed]
  exact sentences.accounts

end Session

namespace Grammar.Statements

variable {tokens : List Token} {program : Program}

theorem accounts_of_completed (sentences : Statements tokens program)
    {session : Session (List PrintedLine)}
    (done : Session.run .recorder { terminal := [] } program = (.ok (), session)) :
    Accounts tokens (session.terminal.map PrintedLine.line) session.symbols.size
      session.executed := by
  have recounts := Session.run_recounts Terminal.recorder_logs { terminal := [] } program
  rw [done] at recounts
  exact recounts.accounts (Session.map_statement_completions done) sentences

theorem accounts_of_failed (sentences : Statements tokens program)
    {session : Session (List PrintedLine)} {index : Nat} {error : RuntimeError}
    (fails : Session.FailsAt .recorder { terminal := [] } program index error)
    (failed : Session.run .recorder { terminal := [] } program = (.error error, session))
    (more : List Token) :
    session.executed = index ∧
      Accounts (throughSemicolons index (tokens ++ more)) (session.terminal.map PrintedLine.line)
        session.symbols.size session.executed := by
  have recounts := Session.run_recounts Terminal.recorder_logs { terminal := [] } program
  have completed := fails.map_statement_completions
  have bound := Nat.le_of_lt fails.lt_length
  rw [failed] at recounts
  refine ⟨?_, recounts.accounts completed (sentences.take bound more)⟩
  rw [recounts.executed, ← List.length_map, completed, List.length_take_of_le bound]
  exact Nat.zero_add index

end Grammar.Statements

theorem tokens_account_for_run {source : String} {tokens : List Token} {program : Program}
    (scanned : tokenize source = .ok tokens) (parsed : parse tokens = .ok program) :
    let result := (runSource .recorder source []).1
    let session := (runSource .recorder source []).2
    let lines := session.terminal.map PrintedLine.line
    (result = .ok () → Accounts tokens lines session.symbols.size session.executed) ∧
    (∀ failure, result = .error failure → ∃ error, failure = .runtime error ∧
      Session.FailsAt .recorder { terminal := [] } program session.executed error ∧
      session.executed < tokens.countP (fun token => token.kind = .semicolon) ∧
      Accounts (throughSemicolons session.executed tokens) lines session.symbols.size
        session.executed) ∧
    lines.Pairwise (· ≤ ·) ∧
    ∀ line ∈ lines, 1 ≤ line ∧ line ≤ 1 + newlines source.toList := by
  have read := (programOfSource_eq_ok_iff_of_scanned scanned).2 parsed
  obtain ⟨body, whole, -, sentences⟩ := programOfSource_eq_ok_iff.1 read
  obtain rfl := Except.ok.inj (scanned.symm.trans whole)
  have ending : Accounts [⟨.endOfFile, "", 1 + newlines source.toList⟩] [] 0 0 := ⟨rfl, rfl, rfl⟩
  rw [runSource_of_ok _ _ read]
  rcases ran : Session.run .recorder { terminal := [] } program with ⟨error | _, session⟩
  · obtain ⟨index, fails⟩ := Session.exists_failsAt (congrArg Prod.fst ran)
    obtain ⟨rfl, accounts⟩ := sentences.accounts_of_failed fails ran
      [⟨.endOfFile, "", 1 + newlines source.toList⟩]
    have lines := accounts.lines_of_tokenize scanned (prefix_throughSemicolons _ _)
    refine ⟨nofun, ?_, lines⟩
    intro failure failed
    cases failed
    refine ⟨error, rfl, fails, ?_, accounts⟩
    rw [(sentences.accounts.append ending).statements]
    exact fails.lt_length
  · have accounts := (sentences.accounts_of_completed ran).append ending
    rw [List.append_nil] at accounts
    have lines := accounts.lines_of_tokenize scanned (List.prefix_refl _)
    refine ⟨fun _ => accounts, ?_, lines⟩
    intro failure failed
    cases failed

def dividedByZero : String :=
  "declarar x = 1; // imprimir;\nimprimir((x)); imprimir(x / 0);"

def dividedTokens : List Token :=
  [⟨.declare, "declarar", 1⟩, ⟨.identifier, "x", 1⟩, ⟨.equals, "=", 1⟩, ⟨.number, "1", 1⟩,
    ⟨.semicolon, ";", 1⟩, ⟨.print, "imprimir", 2⟩, ⟨.leftParen, "(", 2⟩, ⟨.leftParen, "(", 2⟩,
    ⟨.identifier, "x", 2⟩, ⟨.rightParen, ")", 2⟩, ⟨.rightParen, ")", 2⟩, ⟨.semicolon, ";", 2⟩,
    ⟨.print, "imprimir", 2⟩, ⟨.leftParen, "(", 2⟩, ⟨.identifier, "x", 2⟩, ⟨.slash, "/", 2⟩,
    ⟨.number, "0", 2⟩, ⟨.rightParen, ")", 2⟩, ⟨.semicolon, ";", 2⟩, ⟨.endOfFile, "", 2⟩]

def dividedProgram : Program :=
  [.declaration "x" (.number 1) 1, .print (.var "x" 2) 2,
    .print (.binary .div ⟨.slash, "/", 2⟩ (.var "x" 2) (.number 0)) 2]

theorem tokens_account_for_run_division_fails :
    tokenize dividedByZero = .ok dividedTokens ∧ parse dividedTokens = .ok dividedProgram ∧
      (runSource .recorder dividedByZero []).1 = .error (.runtime (.divisionByZero 2)) ∧
      throughSemicolons 2 dividedTokens = dividedTokens.take 12 ∧
      Accounts (dividedTokens.take 12) [2] 1 2 := by
  have scanned : tokenize dividedByZero = .ok dividedTokens := by decide +kernel
  have parsed : parse dividedTokens = .ok dividedProgram := by decide +kernel
  have result : (runSource .recorder dividedByZero []).1 =
      .error (.runtime (.divisionByZero 2)) := by
    decide +kernel
  have printed : (runSource .recorder dividedByZero []).2.terminal = [⟨"1", 2⟩] := by
    decide +kernel
  have declared : (runSource .recorder dividedByZero []).2.symbols.size = 1 := by decide +kernel
  have executed : (runSource .recorder dividedByZero []).2.executed = 2 := by decide +kernel
  have cut : throughSemicolons 2 dividedTokens = dividedTokens.take 12 := by decide
  obtain ⟨-, failing, -⟩ := tokens_account_for_run scanned parsed
  obtain ⟨error, -, -, -, accounts⟩ := failing _ result
  rw [printed, declared, executed, cut] at accounts
  exact ⟨scanned, parsed, result, cut, accounts⟩

end NumScript
