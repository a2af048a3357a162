import NumScript.Symbols

set_option autoImplicit false

namespace NumScript

namespace Symbols

inductive Call where
  | declare (name : String) (value : Float) (line : Nat)
  | assign (name : String) (value : Float) (line : Nat)
  | lookup (name : String) (line : Nat)
  | get (name : String)
  | contains (name : String)

inductive Answer where
  | done
  | failed (error : RuntimeError)
  | value (value : Float)
  | held (value? : Option Float)
  | known (declared : Bool)

def perform (symbols : Symbols) : Call -> Answer × Symbols
  | .declare name value line =>
      match symbols.declare name value line with
      | .ok next => (.done, next)
      | .error error => (.failed error, symbols)
  | .assign name value line =>
      match symbols.assign name value line with
      | .ok next => (.done, next)
      | .error error => (.failed error, symbols)
  | .lookup name line =>
      match symbols.lookup name line with
      | .ok value => (.value value, symbols)
      | .error error => (.failed error, symbols)
  | .get name => (.held (symbols.get? name), symbols)
  | .contains name => (.known (symbols.contains name), symbols)

structure Use where
  call : Call
  answer : Answer

def after (symbols : Symbols) : List Call -> Symbols
  | [] => symbols
  | call :: rest => (symbols.perform call).2.after rest

def uses (symbols : Symbols) : List Call -> List Use
  | [] => []
  | call :: rest => ⟨call, (symbols.perform call).1⟩ :: (symbols.perform call).2.uses rest

variable {symbols next : Symbols} {history : List Use} {use : Use}

def Use.declared? : Use -> Option String
  | ⟨.declare name _ _, .done⟩ => some name
  | _ => none

def Use.written? : Use -> Option (String × Float)
  | ⟨.declare name value _, .done⟩ | ⟨.assign name value _, .done⟩ => some (name, value)
  | _ => none

def declared (history : List Use) : List String :=
  history.filterMap Use.declared?

def latest? (name : String) (history : List Use) : Option Float :=
  ((history.filterMap Use.written?).filter (fun update => update.1 = name)).getLast?.map Prod.snd

def Call.answer (history : List Use) : Call -> Answer
  | .declare name _ line =>
      if name ∈ declared history then .failed (.alreadyDeclared name line) else .done
  | .assign name _ line =>
      if name ∈ declared history then .done else .failed (.undeclared name line)
  | .lookup name line =>
      match latest? name history with
      | some value => .value value
      | none => .failed (.undeclared name line)
  | .get name => .held (latest? name history)
  | .contains name => .known (name ∈ declared history)

inductive Turn (symbols : Symbols) : Use -> Symbols -> Prop where
  | declared {name : String} {value : Float} {line : Nat} {next : Symbols}
      (done : symbols.declare name value line = .ok next) :
      Turn symbols ⟨.declare name value line, .done⟩ next
  | assigned {name : String} {value : Float} {line : Nat} {next : Symbols}
      (done : symbols.assign name value line = .ok next) :
      Turn symbols ⟨.assign name value line, .done⟩ next
  | idle {use : Use} (unwritten : use.written? = none) : Turn symbols use symbols

theorem turn_of_perform (symbols : Symbols) (call : Call) :
    Turn symbols ⟨call, (symbols.perform call).1⟩ (symbols.perform call).2 := by
  cases call with
  | declare name value line =>
      cases result : symbols.declare name value line with
      | ok next =>
          simp only [perform, result]
          exact .declared result
      | error error =>
          simp only [perform, result]
          exact .idle rfl
  | assign name value line =>
      cases result : symbols.assign name value line with
      | ok next =>
          simp only [perform, result]
          exact .assigned result
      | error error =>
          simp only [perform, result]
          exact .idle rfl
  | lookup name line =>
      cases result : symbols.lookup name line <;>
      · simp only [perform, result]
        exact .idle rfl
  | get name => exact .idle rfl
  | contains name => exact .idle rfl

theorem Use.declared?_of_unwritten (unwritten : use.written? = none) : use.declared? = none := by
  rcases use with ⟨_ | _ | _ | _ | _, _ | _ | _ | _ | _⟩ <;> first | rfl | cases unwritten

theorem declared_append (earlier later : List Use) :
    declared (earlier ++ later) = declared earlier ++ declared later :=
  List.filterMap_append

theorem latest?_append_of_written {update : String × Float} (written : use.written? = some update)
    (name : String) :
    latest? name (history ++ [use]) =
      if name = update.1 then some update.2 else latest? name history := by
  simp only [latest?, List.filterMap_append, List.filter_append, List.filterMap_cons, written,
    List.filterMap_nil]
  by_cases same : name = update.1
  · simp [same]
  · simp [same, Ne.symm same]

theorem latest?_append_of_unwritten (unwritten : use.written? = none) (name : String) :
    latest? name (history ++ [use]) = latest? name history := by
  simp [latest?, List.filterMap_append, unwritten]

/-- A table is what its history amounts to. -/
structure Recorded (history : List Use) (symbols : Symbols) : Prop where
  names : symbols.names = declared history
  -- An equation of values, not the comparison `==`, which tells a NaN from itself.
  values : ∀ name, symbols.get? name = latest? name history

namespace Recorded

theorem turn (recorded : Recorded history symbols) (turn : Turn symbols use next) :
    Recorded (history ++ [use]) next := by
  cases turn with
  | declared done =>
      constructor
      · rw [names_declare done, recorded.names, declared_append]
        rfl
      · intro name
        rw [get?_declare done, recorded.values, latest?_append_of_written rfl]
  | assigned done =>
      constructor
      · rw [names_assign done, recorded.names, declared_append]
        exact (List.append_nil _).symm
      · intro name
        rw [get?_assign done, recorded.values, latest?_append_of_written rfl]
  | idle unwritten =>
      constructor
      · rw [recorded.names, declared_append, declared, declared, List.filterMap_cons,
          Use.declared?_of_unwritten unwritten]
        exact (List.append_nil _).symm
      · intro name
        rw [recorded.values, latest?_append_of_unwritten unwritten]

theorem after (recorded : Recorded history symbols) (calls : List Call) :
    Recorded (history ++ symbols.uses calls) (symbols.after calls) := by
  induction calls generalizing history symbols with
  | nil => exact (List.append_nil history).symm ▸ recorded
  | cons call rest ih =>
      have next := ih (recorded.turn (symbols.turn_of_perform call))
      rwa [List.append_assoc] at next

theorem answer (recorded : Recorded history symbols) (call : Call) :
    (symbols.perform call).1 = call.answer history := by
  cases call with
  | declare name value line =>
      by_cases known : name ∈ symbols.names
      · rw [Call.answer, if_pos (recorded.names ▸ known)]
        simp only [perform, declare_of_mem known]
      · obtain ⟨next, done⟩ := exists_declare ((symbols.get?_eq_none_iff name).2 known) value line
        rw [Call.answer, if_neg (recorded.names ▸ known)]
        simp only [perform, done]
  | assign name value line =>
      by_cases known : name ∈ symbols.names
      · obtain ⟨next, done⟩ := exists_assign ((symbols.contains_iff name).2 known) value line
        rw [Call.answer, if_pos (recorded.names ▸ known)]
        simp only [perform, done]
      · rw [Call.answer, if_neg (recorded.names ▸ known)]
        simp only [perform, assign_of_not_mem known]
  | lookup name line =>
      simp only [perform, lookup, Call.answer, recorded.values]
      cases latest? name history <;> rfl
  | get name => rw [perform, Call.answer, recorded.values]
  | contains name => rw [perform, Call.answer, contains, recorded.names]

end Recorded

def Call.reads : Call -> Bool
  | .declare .. | .assign .. => false
  | .lookup .. | .get .. | .contains .. => true

def Answer.isFailure : Answer -> Bool
  | .failed _ => true
  | _ => false

/-- Whether a call remains when the reads and the failing calls are deleted. -/
def Use.remains (use : Use) : Bool :=
  !use.call.reads && !use.answer.isFailure

def remaining (history : List Use) : List Call :=
  (history.filter Use.remains).map Use.call

end Symbols

example : Symbols.remaining (Symbols.empty.uses
    [.declare "x" 1 1, .declare "x" 2 2, .get "x", .declare "y" 3 3, .assign "x" 4 4,
      .lookup "z" 5]) = [.declare "x" 1 1, .declare "y" 3 3, .assign "x" 4 4] := rfl

end NumScript
