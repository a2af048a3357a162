import NumScript.Proofs.Runs

set_option autoImplicit false

namespace NumScript

def Expr.mentions : Expr -> List (String × Nat)
  | number _ => []
  | var name line => [(name, line)]
  | binary _ _ left right => left.mentions ++ right.mentions

def Expr.names (expression : Expr) : List String :=
  expression.mentions.map Prod.fst

@[simp] theorem Expr.names_binary (op : BinOp) (operator : Token) (left right : Expr) :
    (binary op operator left right).names = left.names ++ right.names :=
  List.map_append

theorem Expr.eval_congr {first second : Symbols} {expression : Expr}
    (agree : ∀ name ∈ expression.names, first.get? name = second.get? name) :
    expression.eval first = expression.eval second := by
  induction expression with
  | number value => rfl
  | var name line =>
      have same := agree name List.mem_cons_self
      simp only [eval, Symbols.lookup, same]
  | binary op operator left right ihLeft ihRight =>
      rw [names_binary, List.forall_mem_append] at agree
      rw [eval, eval, ihLeft agree.1, ihRight agree.2]

def Expr.missing? (declared : List String) (expression : Expr) : Option RuntimeError :=
  (expression.mentions.find? (fun (name, _) => name ∉ declared)).map
    (fun (name, line) => .undeclared name line)

/-- The first fault that a check of names finds in a statement, given the names declared so far. -/
def Stmt.nameFault? (declared : List String) : Stmt -> Option RuntimeError
  | declaration name initializer line =>
      (initializer.missing? declared).or
        (if name ∈ declared then some (.alreadyDeclared name line) else none)
  | assignment name value line =>
      if name ∈ declared then value.missing? declared else some (.undeclared name line)
  | print expression _ | evaluation expression _ => expression.missing? declared

def Stmt.scope (declared : List String) : Stmt -> List String
  | declaration name _ _ => declared ++ [name]
  | _ => declared

def Program.nameFault? (declared : List String) : Program -> Option (Nat × RuntimeError)
  | [] => none
  | statement :: rest =>
      match statement.nameFault? declared with
      | some fault => some (0, fault)
      | none =>
          (nameFault? (statement.scope declared) rest).map
            (fun (index, fault) => (index + 1, fault))

/-- A computation succeeds only without a fault to meet, and fails by it or by a division. -/
def Foresees {α : Type} (fault? : Option RuntimeError) : Except RuntimeError α -> Prop
  | .ok _ => fault? = none
  | .error error => fault? = some error ∨ ∃ line, error = .divisionByZero line

theorem Foresees.bind {α β : Type} {first second : Option RuntimeError}
    {computed : Except RuntimeError α} {next : α -> Except RuntimeError β}
    (foresees : Foresees first computed)
    (onward : ∀ value, computed = .ok value → Foresees second (next value)) :
    Foresees (first.or second) (computed >>= next) := by
  cases computed with
  | error error =>
      rcases foresees with met | divided
      · exact .inl (by rw [met, Option.some_or])
      · exact .inr divided
  | ok value =>
      rw [show first = none from foresees, Option.none_or]
      exact onward value rfl

theorem foresees_pure {α : Type} (value : α) :
    Foresees none (pure value : Except RuntimeError α) :=
  rfl

theorem BinOp.foresees_apply (op : BinOp) (line : Nat) (left right : Float) :
    Foresees none (op.apply line left right) := by
  rcases op.apply_cases line left right with ⟨value, known⟩ | divided
  · rw [known]
    rfl
  · rw [divided]
    exact .inr ⟨line, rfl⟩

theorem Symbols.foresees_lookup (symbols : Symbols) (name : String) (line : Nat) :
    Foresees (if name ∈ symbols.names then none else some (.undeclared name line))
      (symbols.lookup name line) := by
  have unknown := symbols.get?_eq_none_iff name
  unfold lookup
  cases found : symbols.get? name with
  | some value =>
      rw [if_pos (by simpa [found] using unknown)]
      rfl
  | none =>
      rw [if_neg (unknown.1 found)]
      exact .inl rfl

theorem Expr.missing?_binary (declared : List String) (op : BinOp) (operator : Token)
    (left right : Expr) :
    (binary op operator left right).missing? declared =
      (left.missing? declared).or (right.missing? declared) := by
  simp only [missing?, mentions, List.find?_append]
  cases left.mentions.find? _ <;> rfl

theorem Expr.foresees_eval (symbols : Symbols) (expression : Expr) :
    Foresees (expression.missing? symbols.names) (expression.eval symbols) := by
  induction expression with
  | number value => rfl
  | var name line =>
      have looked := symbols.foresees_lookup name line
      by_cases known : name ∈ symbols.names <;>
        simpa [missing?, mentions, eval, known] using looked
  | binary op operator left right ihLeft ihRight =>
      rw [missing?_binary, ← Option.or_none (o := right.missing? symbols.names)]
      apply ihLeft.bind
      intro leftValue _
      apply ihRight.bind
      intro rightValue _
      exact op.foresees_apply operator.line leftValue rightValue

theorem Symbols.foresees_declare (symbols : Symbols) (name : String) (value : Float) (line : Nat) :
    Foresees (if name ∈ symbols.names then some (.alreadyDeclared name line) else none)
      (symbols.declare name value line) := by
  unfold declare
  split
  · exact .inl rfl
  · rfl

theorem Stmt.foresees_effect (symbols : Symbols) (statement : Stmt) :
    Foresees (statement.nameFault? symbols.names) (statement.effect symbols) := by
  cases statement with
  | declaration name initializer line =>
      apply (initializer.foresees_eval symbols).bind
      intro value _
      rw [← Option.or_none (o := ite _ _ _)]
      apply (symbols.foresees_declare name value line).bind
      intro next _
      exact foresees_pure _
  | assignment name value line =>
      have contained := symbols.contains_iff name
      simp only [nameFault?, effect]
      by_cases known : name ∈ symbols.names
      · rw [if_pos known, if_pos (contained.2 known),
          ← Option.or_none (o := value.missing? symbols.names)]
        apply (value.foresees_eval symbols).bind
        intro value _
        obtain ⟨next, assigned⟩ := Symbols.exists_assign (contained.2 known) value line
        rw [assigned]
        exact foresees_pure _
      · rw [if_neg known, if_neg (mt contained.1 known)]
        exact .inl rfl
  | print expression line =>
      rw [nameFault?, ← Option.or_none (o := expression.missing? symbols.names)]
      apply (expression.foresees_eval symbols).bind
      intro value _
      exact foresees_pure _
  | evaluation expression line =>
      rw [nameFault?, ← Option.or_none (o := expression.missing? symbols.names)]
      apply (expression.foresees_eval symbols).bind
      intro value _
      exact foresees_pure _

theorem Stmt.names_of_effect {symbols : Symbols} {statement : Stmt} {effect : Effect}
    (known : statement.effect symbols = .ok effect) :
    (effect.symbols symbols).names = statement.scope symbols.names := by
  cases completes_of_effect known with
  | declaration _ declared => exact Symbols.names_declare declared
  | assignment _ assigned => exact Symbols.names_assign assigned
  | print | evaluation => rfl

def RuntimeError.Incidental (error : RuntimeError) : Prop :=
  (∃ line, error = .divisionByZero line) ∨ ∃ cause line, error = .output cause line

namespace Session

variable {σ : Type} (terminal : Terminal σ) (session : Session σ)

theorem execute_of_clean {statement : Stmt}
    (clean : statement.nameFault? session.symbols.names = none) :
    (∃ next, session.execute terminal statement = (.ok (), next) ∧
      next.symbols.names = statement.scope session.symbols.names) ∨
    ∃ error next, session.execute terminal statement = (.error error, next) ∧
      error.Incidental := by
  have foreseen := statement.foresees_effect session.symbols
  rw [clean] at foreseen
  cases known : statement.effect session.symbols with
  | error error =>
      rw [known] at foreseen
      rcases foreseen with met | divided
      · cases met
      · exact .inr ⟨error, session, execute_of_effect_error session known, .inl divided⟩
  | ok effect =>
      rcases execute_of_effect_ok session known with
        ⟨next, done, same⟩ | ⟨cause, line, next, failed⟩
      · exact .inl ⟨next, done, by rw [same, Stmt.names_of_effect known]⟩
      · exact .inr ⟨_, next, failed, .inr ⟨cause, line, rfl⟩⟩

theorem execute_of_faulty {statement : Stmt} {fault : RuntimeError}
    (faulty : statement.nameFault? session.symbols.names = some fault) :
    ∃ error next, session.execute terminal statement = (.error error, next) ∧
      (error = fault ∨ ∃ line, error = .divisionByZero line) := by
  have foreseen := statement.foresees_effect session.symbols
  rw [faulty] at foreseen
  cases known : statement.effect session.symbols with
  | ok effect =>
      rw [known] at foreseen
      cases foreseen
  | error error =>
      rw [known] at foreseen
      refine ⟨error, session, execute_of_effect_error session known, foreseen.imp_left ?_⟩
      intro met
      exact (Option.some.inj met).symm

theorem run_of_clean {program : Program}
    (clean : Program.nameFault? session.symbols.names program = none) :
    (∃ next, session.run terminal program = (.ok (), next)) ∨
      ∃ index error, session.FailsAt terminal program index error ∧ error.Incidental := by
  induction program generalizing session with
  | nil => exact .inl ⟨session, rfl⟩
  | cons statement rest ih =>
      rw [Program.nameFault?] at clean
      split at clean
      next => cases clean
      next fine =>
        rcases execute_of_clean terminal session fine with
          ⟨next, done, scope⟩ | ⟨error, next, failed, kind⟩
        · rw [← scope] at clean
          rcases ih next (Option.map_eq_none_iff.1 clean) with
            ⟨last, whole⟩ | ⟨index, error, fails, kind⟩
          · exact .inl ⟨last, by rw [run_cons_of_ok done, whole]⟩
          · exact .inr ⟨index + 1, error, fails.succ done, kind⟩
        · exact .inr ⟨0, error, .zero failed rest, kind⟩

theorem run_of_faulty {program : Program} {index : Nat} {fault : RuntimeError}
    (faulty : Program.nameFault? session.symbols.names program = some (index, fault)) :
    ∃ failing error, session.FailsAt terminal program failing error ∧
      ((failing < index ∧ error.Incidental) ∨
        (failing = index ∧ (error = fault ∨ ∃ line, error = .divisionByZero line))) := by
  induction program generalizing session index with
  | nil => cases faulty
  | cons statement rest ih =>
      rw [Program.nameFault?] at faulty
      split at faulty
      next here =>
        cases faulty
        obtain ⟨error, next, failed, kind⟩ := execute_of_faulty terminal session here
        exact ⟨0, error, .zero failed rest, .inr ⟨rfl, kind⟩⟩
      next fine =>
        obtain ⟨⟨later, fault⟩, found, same⟩ := Option.map_eq_some_iff.1 faulty
        cases same
        rcases execute_of_clean terminal session fine with
          ⟨next, done, scope⟩ | ⟨error, next, failed, kind⟩
        · rw [← scope] at found
          obtain ⟨failing, error, fails, kind⟩ := ih next found
          refine ⟨failing + 1, error, fails.succ done, ?_⟩
          exact kind.imp (And.imp_left Nat.succ_lt_succ) (And.imp_left (congrArg Nat.succ))
        · exact ⟨0, error, .zero failed rest, .inl ⟨Nat.succ_pos later, kind⟩⟩

end Session

theorem RuntimeError.Incidental.ne {error : RuntimeError} (incidental : error.Incidental)
    (name : String) (line : Nat) :
    error ≠ .alreadyDeclared name line ∧ error ≠ .undeclared name line := by
  rcases incidental with ⟨line, rfl⟩ | ⟨cause, line, rfl⟩ <;> simp

theorem name_faults_foreseen {σ : Type} (terminal : Terminal σ) (session : Session σ)
    (program : Program) :
    (Program.nameFault? session.symbols.names program = none → ∀ name line,
      (session.run terminal program).1 ≠ .error (.alreadyDeclared name line) ∧
        (session.run terminal program).1 ≠ .error (.undeclared name line)) ∧
    (∀ index fault, Program.nameFault? session.symbols.names program = some (index, fault) →
      ∃ failing error, failing ≤ index ∧ session.FailsAt terminal program failing error ∧
        (failing < index → error.Incidental) ∧
        (failing = index → error = fault ∨ ∃ line, error = .divisionByZero line)) ∧
    ∀ (symbols : Symbols) (name : String) (expression : Expr) (value : Float) (line : Nat),
      symbols.contains name → expression.eval symbols = .ok value →
        ∃ next, symbols.assign name value line = .ok next ∧
          (Stmt.assignment name expression line).effect symbols = .ok (.store next) := by
  refine ⟨?_, ?_, ?_⟩
  · intro clean name line
    rcases session.run_of_clean terminal clean with ⟨next, whole⟩ | ⟨index, error, fails, kind⟩
    · rw [whole]
      exact ⟨nofun, nofun⟩
    · obtain ⟨middle, last, statement, -, -, -, whole⟩ := fails
      rw [whole]
      simpa using kind.ne name line
  · intro index fault faulty
    obtain ⟨failing, error, fails, kind⟩ := session.run_of_faulty terminal faulty
    refine ⟨failing, error, ?_, fails, ?_, ?_⟩
    · exact kind.elim (fun earlier => Nat.le_of_lt earlier.1) (fun same => Nat.le_of_eq same.1)
    · intro earlier
      exact kind.elim And.right (fun same => absurd same.1 (Nat.ne_of_lt earlier))
    · intro same
      exact kind.elim (fun earlier => absurd same (Nat.ne_of_lt earlier.1)) And.right
  · intro symbols name expression value line contained computed
    obtain ⟨next, assigned⟩ := Symbols.exists_assign contained value line
    refine ⟨next, assigned, ?_⟩
    rw [Stmt.effect, if_pos contained, computed]
    change (symbols.assign name value line >>= _) = _
    rw [assigned]
    rfl

def lateNameFault : Program :=
  [.declaration "x" (.number 0) 1,
    .print (.binary .div ⟨.slash, "/", 2⟩ (.var "x" 2) (.var "x" 2)) 2,
    .assignment "y" (.var "x" 3) 3]

theorem name_faults_foreseen_behind_division :
    Program.nameFault? [] lateNameFault = some (2, .undeclared "y" 3) ∧
      ∃ failing error, failing ≤ 2 ∧
        Session.FailsAt Terminal.recorder { terminal := [] } lateNameFault failing error ∧
        (failing < 2 → error.Incidental) ∧
        (failing = 2 → error = .undeclared "y" 3 ∨ ∃ line, error = .divisionByZero line) := by
  have faulty : Program.nameFault? [] lateNameFault = some (2, .undeclared "y" 3) := by decide
  exact ⟨faulty, (name_faults_foreseen Terminal.recorder { terminal := [] } lateNameFault).2.1 2
    (.undeclared "y" 3) faulty⟩

end NumScript
