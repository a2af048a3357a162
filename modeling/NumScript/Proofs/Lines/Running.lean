import NumScript.Proofs.FailedRuns
import NumScript.Proofs.Lines.Parsing

set_option autoImplicit false

namespace NumScript

def PrintedLine.mapLine (f : Nat -> Nat) (printed : PrintedLine) : PrintedLine :=
  { printed with line := f printed.line }

def Effect.mapLine (f : Nat -> Nat) : Effect -> Effect
  | store symbols => store symbols
  | print printed => print (printed.mapLine f)

def Session.mapLines (f : Nat -> Nat) (session : Session (List PrintedLine)) :
    Session (List PrintedLine) :=
  session.through (List.map (PrintedLine.mapLine f))

section

variable (f : Nat -> Nat)

namespace Symbols

variable (symbols : Symbols) (name : String)

theorem lookup_mapLine (line : Nat) :
    symbols.lookup name (f line) = (symbols.lookup name line).mapError (.mapLine f) := by
  unfold lookup
  split <;> rfl

theorem declare_mapLine (value : Float) (line : Nat) :
    symbols.declare name value (f line) =
      (symbols.declare name value line).mapError (.mapLine f) := by
  unfold declare
  split <;> rfl

theorem assign_mapLine (value : Float) (line : Nat) :
    symbols.assign name value (f line) =
      (symbols.assign name value line).mapError (.mapLine f) := by
  unfold assign
  split <;> rfl

end Symbols

theorem BinOp.apply_mapLine (op : BinOp) (line : Nat) (left right : Float) :
    op.apply (f line) left right = (op.apply line left right).mapError (.mapLine f) := by
  cases op with
  | add | sub | mul => rfl
  | div =>
      simp only [apply]
      split <;> rfl

theorem Expr.eval_mapLines (symbols : Symbols) (expression : Expr) :
    (expression.mapLines f).eval symbols =
      (expression.eval symbols).mapError (.mapLine f) := by
  induction expression with
  | number => rfl
  | var name line => exact symbols.lookup_mapLine f name line
  | binary op operator left right leftSame rightSame =>
      simp only [mapLines, eval, leftSame, rightSame]
      cases left.eval symbols with
      | error => rfl
      | ok leftValue =>
          cases right.eval symbols with
          | error => rfl
          | ok rightValue => exact op.apply_mapLine f operator.line leftValue rightValue

theorem Stmt.effect_mapLines (symbols : Symbols) (statement : Stmt) :
    (statement.mapLines f).effect symbols =
      match statement.effect symbols with
      | .ok effect => .ok (effect.mapLine f)
      | .error error => .error (error.mapLine f) := by
  cases statement with
  | declaration name initializer line =>
      simp only [mapLines, effect, Expr.eval_mapLines, Symbols.declare_mapLine]
      cases initializer.eval symbols with
      | error => rfl
      | ok value =>
          simp only [Except.mapError, bind, Except.bind]
          cases symbols.declare name value line <;> rfl
  | assignment name value line =>
      simp only [mapLines, effect, Expr.eval_mapLines, Symbols.assign_mapLine]
      split
      · cases value.eval symbols with
        | error => rfl
        | ok value =>
            simp only [Except.mapError, bind, Except.bind]
            cases symbols.assign name value line <;> rfl
      · rfl
  | print expression line | evaluation expression line =>
      simp only [mapLines, effect, Expr.eval_mapLines]
      cases expression.eval symbols <;> rfl

namespace Session

theorem execute_mapLines (session : Session (List PrintedLine)) (statement : Stmt) :
    (session.mapLines f).execute .recorder (statement.mapLines f) =
      ((session.execute .recorder statement).1.mapError (.mapLine f),
        (session.execute .recorder statement).2.mapLines f) := by
  have moved := statement.effect_mapLines f session.symbols
  cases known : statement.effect session.symbols with
  | error error =>
      rw [known] at moved
      rw [execute_of_effect_error session known, execute_of_effect_error (session.mapLines f) moved]
      rfl
  | ok effect =>
      rw [known] at moved
      cases effect with
      | store symbols =>
          rw [execute_store session known, execute_store (session.mapLines f) moved]
          rfl
      | print printed =>
          rw [execute_accepted session known rfl, execute_accepted (session.mapLines f) moved rfl]
          simp [mapLines, through, Except.mapError]

theorem run_mapLines (session : Session (List PrintedLine)) (program : Program) :
    (session.mapLines f).run .recorder (program.map (Stmt.mapLines f)) =
      ((session.run .recorder program).1.mapError (.mapLine f),
        (session.run .recorder program).2.mapLines f) :=
  run_image (execute_mapLines f) session program

theorem submit_mapLine (session : Session (List PrintedLine)) (tokens : List Token) :
    (session.mapLines f).submit .recorder (.tokens (tokens.map (Token.mapLine f))) =
      ((session.submit .recorder (.tokens tokens)).1.mapError (.mapLines f),
        (session.submit .recorder (.tokens tokens)).2.mapLines f) := by
  simp only [submit, Submission.read, programOfTokens, parse_mapLine]
  cases parse tokens with
  | error errors => rfl
  | ok program =>
      simp only [Except.mapError, run_mapLines]
      rcases (session.run .recorder program).1 with _ | _ <;> rfl

end Session

end

end NumScript
