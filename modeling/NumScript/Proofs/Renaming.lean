import Mathlib.Data.List.Nodup
import Mathlib.Logic.Embedding.Basic
import NumScript.Proofs.FailedRuns

set_option autoImplicit false

namespace NumScript

abbrev Renaming := String ↪ String

def Expr.rename (labels : Renaming) : Expr -> Expr
  | number value => number value
  | var name line => var (labels name) line
  -- The text of an operator is no name.
  | binary op operator left right =>
      binary op operator (left.rename labels) (right.rename labels)

def Stmt.rename (labels : Renaming) : Stmt -> Stmt
  | declaration name initializer line =>
      declaration (labels name) (initializer.rename labels) line
  | assignment name value line => assignment (labels name) (value.rename labels) line
  | print expression line => print (expression.rename labels) line
  | evaluation expression line => evaluation (expression.rename labels) line

def Program.rename (labels : Renaming) (program : Program) : Program :=
  program.map (Stmt.rename labels)

def RuntimeError.rename (labels : Renaming) : RuntimeError -> RuntimeError
  | alreadyDeclared name line => alreadyDeclared (labels name) line
  | undeclared name line => undeclared (labels name) line
  | error => error

def Symbols.rename (labels : Renaming) (symbols : Symbols) : Symbols where
  entries := symbols.entries.map (fun (name, value) => (labels name, value))
  distinct := by
    have distinct := List.Nodup.map labels.injective symbols.distinct
    rwa [List.map_map] at distinct ⊢

def Effect.rename (labels : Renaming) : Effect -> Effect
  | store symbols => store (symbols.rename labels)
  | print line => print line

def Session.rename {σ : Type} (labels : Renaming) (session : Session σ) : Session σ :=
  { session with symbols := session.symbols.rename labels }

section

variable (labels : Renaming)

namespace Symbols

variable (symbols : Symbols) (name : String)

theorem names_rename : (symbols.rename labels).names = symbols.names.map labels := by
  simp [names, rename]

theorem mem_names_rename : labels name ∈ (symbols.rename labels).names ↔ name ∈ symbols.names := by
  rw [names_rename, List.mem_map_of_injective labels.injective]

theorem contains_rename :
    (symbols.rename labels).contains (labels name) = symbols.contains name := by
  simp only [contains, mem_names_rename]

theorem get?_rename : (symbols.rename labels).get? (labels name) = symbols.get? name := by
  simp only [get?, rename]
  induction symbols.entries with
  | nil => rfl
  | cons entry rest ih =>
      have same : (labels name == labels entry.1) = (name == entry.1) := by
        simp [beq_eq_decide, labels.apply_eq_iff_eq]
      rw [List.map_cons, List.lookup_cons, List.lookup_cons, same, ih]

theorem lookup_rename (line : Nat) :
    (symbols.rename labels).lookup (labels name) line =
      (symbols.lookup name line).mapError (.rename labels) := by
  rw [lookup, lookup, get?_rename]
  cases symbols.get? name <;> rfl

theorem declare_rename (value : Float) (line : Nat) :
    (symbols.rename labels).declare (labels name) value line =
      ((symbols.declare name value line).map (rename labels)).mapError (.rename labels) := by
  have known := symbols.mem_names_rename labels name
  by_cases declared : name ∈ symbols.names
  · rw [declare_of_mem declared, declare_of_mem (known.2 declared)]
    rfl
  · rw [declare, declare, dif_neg declared, dif_neg (mt known.1 declared)]
    simp [rename, Except.map, Except.mapError]

theorem assign_rename (value : Float) (line : Nat) :
    (symbols.rename labels).assign (labels name) value line =
      ((symbols.assign name value line).map (rename labels)).mapError (.rename labels) := by
  have known := symbols.mem_names_rename labels name
  by_cases declared : name ∈ symbols.names
  · rw [assign, assign, if_pos declared, if_pos (known.2 declared)]
    have replaced (entry : String × Float) :
        replace (labels name) value (labels entry.1, entry.2) =
          (labels (replace name value entry).1, (replace name value entry).2) := by
      by_cases same : entry.1 = name <;> simp [replace, same]
    simp [rename, Except.map, Except.mapError, Function.comp_def, replaced]
  · rw [assign_of_not_mem declared, assign_of_not_mem (mt known.1 declared)]
    rfl

end Symbols

theorem BinOp.mapError_apply (op : BinOp) (line : Nat) (left right : Float) :
    (op.apply line left right).mapError (.rename labels) = op.apply line left right := by
  rcases op.apply_cases line left right with ⟨value, known⟩ | divided
  · rw [known]
    rfl
  · rw [divided]
    rfl

theorem Expr.eval_rename (symbols : Symbols) (expression : Expr) :
    (expression.rename labels).eval (symbols.rename labels) =
      (expression.eval symbols).mapError (.rename labels) := by
  induction expression with
  | number => rfl
  | var name line => exact symbols.lookup_rename labels name line
  | binary op operator left right leftSame rightSame =>
      simp only [rename, eval, leftSame, rightSame]
      cases left.eval symbols with
      | error => rfl
      | ok leftValue =>
          cases right.eval symbols with
          | error => rfl
          | ok rightValue =>
              exact (op.mapError_apply labels operator.line leftValue rightValue).symm

theorem Stmt.effect_rename (symbols : Symbols) (statement : Stmt) :
    (statement.rename labels).effect (symbols.rename labels) =
      ((statement.effect symbols).map (.rename labels)).mapError (.rename labels) := by
  cases statement with
  | declaration name initializer line =>
      simp only [rename, effect, Expr.eval_rename, Symbols.declare_rename]
      cases initializer.eval symbols with
      | error => rfl
      | ok value =>
          simp only [Except.mapError, bind, Except.bind]
          cases symbols.declare name value line <;> rfl
  | assignment name value line =>
      simp only [rename, effect, Expr.eval_rename, Symbols.assign_rename,
        Symbols.contains_rename]
      split
      · cases value.eval symbols with
        | error => rfl
        | ok value =>
            simp only [Except.mapError, bind, Except.bind]
            cases symbols.assign name value line <;> rfl
      · rfl
  | print expression line | evaluation expression line =>
      simp only [rename, effect, Expr.eval_rename]
      cases expression.eval symbols <;> rfl

namespace Session

variable {σ : Type} (terminal : Terminal σ) (session : Session σ)

theorem execute_rename (statement : Stmt) :
    (session.rename labels).execute terminal (statement.rename labels) =
      ((session.execute terminal statement).1.mapError (.rename labels),
        (session.execute terminal statement).2.rename labels) := by
  have renamed := statement.effect_rename labels session.symbols
  cases known : statement.effect session.symbols with
  | error error =>
      rw [known] at renamed
      rw [execute_of_effect_error session known,
        execute_of_effect_error (session.rename labels) renamed]
      rfl
  | ok effect =>
      rw [known] at renamed
      cases effect with
      | store symbols =>
          rw [execute_store session known, execute_store (session.rename labels) renamed]
          rfl
      | print line =>
          -- The terminal is offered the same line, and its state is the same.
          rcases reply : terminal.print line session.terminal with ⟨_ | cause, state⟩
          · rw [execute_accepted session known reply,
              execute_accepted (session.rename labels) renamed reply]
            rfl
          · rw [execute_refused session known reply,
              execute_refused (session.rename labels) renamed reply]
            rfl

theorem run_rename (program : Program) :
    (session.rename labels).run terminal (program.rename labels) =
      ((session.run terminal program).1.mapError (.rename labels),
        (session.run terminal program).2.rename labels) :=
  run_image (execute_rename labels terminal) session program

theorem offered_rename (program : Program) :
    (session.rename labels).offered terminal (program.rename labels) =
      session.offered terminal program :=
  congrArg (fun ran => ran.2.terminal.1)
    (session.watched.run_rename labels terminal.observed program)

end Session

end

theorem names_are_labels {σ : Type} (labels : Renaming) (terminal : Terminal σ)
    (session : Session σ) (program : Program) :
    let plain := session.run terminal program
    let renamed := (session.rename labels).run terminal (program.rename labels)
    renamed.1 = plain.1.mapError (.rename labels) ∧
      renamed.2.symbols = plain.2.symbols.rename labels ∧
      renamed.2.executed = plain.2.executed ∧
      renamed.2.terminal = plain.2.terminal ∧
      (session.rename labels).offered terminal (program.rename labels) =
        session.offered terminal program := by
  have whole := session.run_rename labels terminal program
  have offered := session.offered_rename labels terminal program
  intro plain renamed
  have same : renamed = (plain.1.mapError (.rename labels), plain.2.rename labels) := whole
  rw [same]
  exact ⟨rfl, rfl, rfl, rfl, offered⟩

end NumScript
