import NumScript.Proofs.Lines.Running

set_option autoImplicit false

namespace NumScript

def Token.content (token : Token) : TokenKind × String :=
  (token.kind, token.text)

def numbered (tokens : List Token) : List Token :=
  tokens.mapIdx (fun index token => { token with line := index })

def lineAt (tokens : List Token) (index : Nat) : Nat :=
  (tokens[index]?.map Token.line).getD 0

theorem getElem?_numbered (tokens : List Token) (index : Nat) :
    (numbered tokens)[index]? = tokens[index]?.map (fun token => { token with line := index }) :=
  List.getElem?_mapIdx

theorem numbered_of_content {tokens others : List Token}
    (same : tokens.map Token.content = others.map Token.content) :
    numbered tokens = numbered others := by
  apply List.ext_getElem?
  intro index
  have here : (tokens[index]?).map Token.content = (others[index]?).map Token.content := by
    rw [← List.getElem?_map, ← List.getElem?_map, same]
  rw [getElem?_numbered, getElem?_numbered]
  cases token : tokens[index]? <;> cases other : others[index]? <;>
    simp_all [Token.content]

theorem numbered_lineAt (tokens : List Token) :
    (numbered tokens).map (Token.mapLine (lineAt tokens)) = tokens := by
  apply List.ext_getElem?
  intro index
  rw [List.getElem?_map, getElem?_numbered]
  cases token : tokens[index]? <;> simp [Token.mapLine, lineAt, token]

-- Moves the lines that are no index, so that what it leaves alone has only indices for lines.
def beyond (count line : Nat) : Nat :=
  if line < count then line else line + 1

theorem lt_of_beyond {count line : Nat} (fixed : beyond count line = line) : line < count := by
  unfold beyond at fixed
  split at fixed <;> omega

theorem numbered_beyond (tokens : List Token) :
    (numbered tokens).map (Token.mapLine (beyond tokens.length)) = numbered tokens := by
  apply List.ext_getElem?
  intro index
  rw [List.getElem?_map, getElem?_numbered]
  cases token : tokens[index]? with
  | none => rfl
  | some token =>
      have bound := (List.getElem?_eq_some_iff.1 token).1
      simp [Token.mapLine, beyond, bound]

/-- Both lines are those of the tokens with one and the same index. -/
def SamePlace (tokens others : List Token) (line other : Nat) : Prop :=
  ∃ index : Nat,
    tokens[index]?.map Token.line = some line ∧ others[index]?.map Token.line = some other

theorem samePlace_lineAt {tokens others : List Token} (long : tokens.length = others.length)
    {index : Nat} (bound : index < tokens.length) :
    SamePlace tokens others (lineAt tokens index) (lineAt others index) := by
  have other : index < others.length := long ▸ bound
  refine ⟨index, ?_, ?_⟩
  · simp [lineAt, bound]
  · simp [lineAt, other]

section

variable (place : Nat -> Nat -> Prop)

structure PrintedLine.Alike (printed other : PrintedLine) : Prop where
  text : printed.text = other.text
  line : place printed.line other.line

structure SyntaxError.Alike (error other : SyntaxError) : Prop where
  lexeme : error.lexeme = other.lexeme
  message : error.message = other.message
  line : place error.line other.line

inductive SameOutcome : Except Failure Unit -> Except Failure Unit -> Prop where
  | completed : SameOutcome (.ok ()) (.ok ())
  | parse {errors others : List SyntaxError}
      (each : List.Forall₂ (SyntaxError.Alike place) errors others) :
      SameOutcome (.error (.parse errors)) (.error (.parse others))
  | alreadyDeclared {name : String} {line other : Nat} (lines : place line other) :
      SameOutcome (.error (.runtime (.alreadyDeclared name line)))
        (.error (.runtime (.alreadyDeclared name other)))
  | undeclared {name : String} {line other : Nat} (lines : place line other) :
      SameOutcome (.error (.runtime (.undeclared name line)))
        (.error (.runtime (.undeclared name other)))
  | divisionByZero {line other : Nat} (lines : place line other) :
      SameOutcome (.error (.runtime (.divisionByZero line)))
        (.error (.runtime (.divisionByZero other)))

end

theorem forall₂_map_of_fixed {α : Type} {related : α -> α -> Prop} {items : List α}
    {f g h : α -> α} (each : ∀ item, h item = item → related (f item) (g item))
    (fixed : items.map h = items) : List.Forall₂ related (items.map f) (items.map g) := by
  have still : items.map h = items.map id := by rw [fixed, List.map_id]
  rw [List.forall₂_map_left_iff, List.forall₂_map_right_iff, List.forall₂_same]
  intro item member
  exact each item (List.map_inj_left.1 still item member)

inductive EndsRecorded : Except Failure Unit -> Prop where
  | completed : EndsRecorded (.ok ())
  | parse (errors : List SyntaxError) : EndsRecorded (.error (.parse errors))
  | runtime (error : RuntimeError) (inside : error.isOutput = false) :
      EndsRecorded (.error (.runtime error))

theorem Session.endsRecorded (session : Session (List PrintedLine)) (tokens : List Token) :
    EndsRecorded (session.submit .recorder (.tokens tokens)).1 := by
  simp only [submit, Submission.read, programOfTokens]
  cases parse tokens with
  | error errors => exact .parse errors
  | ok program =>
      cases ended : (session.run .recorder program).1 with
      | ok => simpa only [Except.mapError, ended] using EndsRecorded.completed
      | error error =>
          simpa only [Except.mapError, ended] using
            EndsRecorded.runtime error (isOutput_of_recorder ended)

section

variable {place : Nat -> Nat -> Prop} {f g h : Nat -> Nat}
  (placed : ∀ line, h line = line → place (f line) (g line))

include placed

theorem PrintedLine.alike_mapLine {printed : PrintedLine} (fixed : printed.mapLine h = printed) :
    PrintedLine.Alike place (printed.mapLine f) (printed.mapLine g) where
  text := rfl
  line := placed printed.line (congrArg PrintedLine.line fixed)

theorem SyntaxError.alike_mapLine {error : SyntaxError} (fixed : error.mapLine h = error) :
    SyntaxError.Alike place (error.mapLine f) (error.mapLine g) where
  lexeme := rfl
  message := rfl
  line := placed error.line (congrArg SyntaxError.line fixed)

theorem sameOutcome_runtime {error : RuntimeError} (fixed : error.mapLine h = error)
    (inside : error.isOutput = false) :
    SameOutcome place (.error (.runtime (error.mapLine f)))
      (.error (.runtime (error.mapLine g))) := by
  cases error with
  | alreadyDeclared name line =>
      exact .alreadyDeclared (placed line (RuntimeError.alreadyDeclared.inj fixed).2)
  | undeclared name line =>
      exact .undeclared (placed line (RuntimeError.undeclared.inj fixed).2)
  | divisionByZero line =>
      exact .divisionByZero (placed line (RuntimeError.divisionByZero.inj fixed))
  | output cause line => cases inside

theorem sameOutcome_mapLines {result : Except Failure Unit} (ended : EndsRecorded result)
    (fixed : result.mapError (.mapLines h) = result) :
    SameOutcome place (result.mapError (.mapLines f)) (result.mapError (.mapLines g)) := by
  cases ended with
  | completed => exact .completed
  | parse errors =>
      have still := Failure.parse.inj (Except.error.inj fixed)
      exact .parse (forall₂_map_of_fixed (fun _ => SyntaxError.alike_mapLine placed) still)
  | runtime error inside =>
      have still := Failure.runtime.inj (Except.error.inj fixed)
      exact sameOutcome_runtime placed still inside

end

-- A source has the run of its numbered tokens, shown on the lines of the tokens themselves.
theorem runSource_lineAt {source : String} {tokens : List Token}
    (scanned : tokenize source = .ok tokens) :
    runSource .recorder source [] =
      let (result, session) :=
        Session.submit .recorder { terminal := [] } (.tokens (numbered tokens))
      (result.mapError (.mapLines (lineAt tokens)), session.mapLines (lineAt tokens)) := by
  have moved := Session.submit_mapLine (lineAt tokens) { terminal := [] } (numbered tokens)
  rw [numbered_lineAt] at moved
  exact (runSource_of_tokens .recorder [] scanned).trans moved

theorem layout_makes_no_difference {first second : String} {tokens others : List Token}
    (scanned : tokenize first = .ok tokens) (rescanned : tokenize second = .ok others)
    (same : tokens.map Token.content = others.map Token.content) :
    let (result, session) := runSource .recorder first []
    let (otherResult, otherSession) := runSource .recorder second []
    SameOutcome (SamePlace tokens others) result otherResult ∧
      List.Forall₂ (PrintedLine.Alike (SamePlace tokens others)) session.terminal
        otherSession.terminal ∧
      session.symbols = otherSession.symbols ∧ session.executed = otherSession.executed := by
  have long : tokens.length = others.length := by simpa using congrArg List.length same
  have placed : ∀ line, beyond tokens.length line = line →
      SamePlace tokens others (lineAt tokens line) (lineAt others line) :=
    fun line fixed => samePlace_lineAt long (lt_of_beyond fixed)
  have ended := Session.endsRecorded { terminal := [] } (numbered tokens)
  have fixed := Session.submit_mapLine (beyond tokens.length) { terminal := [] } (numbered tokens)
  have fresh : Session.mapLines (beyond tokens.length) { terminal := [] } = { terminal := [] } :=
    rfl
  rw [numbered_beyond, fresh] at fixed
  rw [runSource_lineAt scanned, runSource_lineAt rescanned, ← numbered_of_content same]
  rcases reached : Session.submit .recorder { terminal := [] } (.tokens (numbered tokens)) with
    ⟨result, session⟩
  rw [reached] at ended fixed
  obtain ⟨sameResult, sameSession⟩ := Prod.mk.inj fixed
  have sameLines := congrArg Session.terminal sameSession
  refine ⟨sameOutcome_mapLines placed ended sameResult.symm, ?_, rfl, rfl⟩
  exact forall₂_map_of_fixed (fun _ => PrintedLine.alike_mapLine placed) sameLines.symm

def packedSource : String :=
  "declarar x = 1; imprimir(x); imprimir(x / 0);"

def airySource : String :=
  "declarar x // a name\n= 1;\n\nimprimir(\nx);\nimprimir(x\n/ 0);\n"

def airyTokens : List Token :=
  [⟨.declare, "declarar", 1⟩, ⟨.identifier, "x", 1⟩, ⟨.equals, "=", 2⟩, ⟨.number, "1", 2⟩,
    ⟨.semicolon, ";", 2⟩, ⟨.print, "imprimir", 4⟩, ⟨.leftParen, "(", 4⟩, ⟨.identifier, "x", 5⟩,
    ⟨.rightParen, ")", 5⟩, ⟨.semicolon, ";", 5⟩, ⟨.print, "imprimir", 6⟩, ⟨.leftParen, "(", 6⟩,
    ⟨.identifier, "x", 6⟩, ⟨.slash, "/", 7⟩, ⟨.number, "0", 7⟩, ⟨.rightParen, ")", 7⟩,
    ⟨.semicolon, ";", 7⟩, ⟨.endOfFile, "", 8⟩]

def packedTokens : List Token :=
  airyTokens.map (Token.mapLine fun _ => 1)

theorem layout_makes_no_difference_packed_airy :
    tokenize packedSource = .ok packedTokens ∧ tokenize airySource = .ok airyTokens ∧
      (runSource .recorder packedSource []).2.terminal = [⟨"1", 1⟩] ∧
      (runSource .recorder airySource []).2.terminal = [⟨"1", 4⟩] ∧
      List.Forall₂ (PrintedLine.Alike (SamePlace packedTokens airyTokens))
        (runSource .recorder packedSource []).2.terminal
        (runSource .recorder airySource []).2.terminal ∧
      SameOutcome (SamePlace packedTokens airyTokens)
        (runSource .recorder packedSource []).1 (runSource .recorder airySource []).1 := by
  have scanned : tokenize packedSource = .ok packedTokens := by decide +kernel
  have rescanned : tokenize airySource = .ok airyTokens := by decide +kernel
  have same : packedTokens.map Token.content = airyTokens.map Token.content := by decide
  obtain ⟨outcome, lines, -, -⟩ := layout_makes_no_difference scanned rescanned same
  exact ⟨scanned, rescanned, by decide +kernel, by decide +kernel, lines, outcome⟩

end NumScript
