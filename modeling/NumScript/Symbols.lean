import NumScript.RuntimeError

set_option autoImplicit false

namespace NumScript

structure Symbols where
  entries : List (String × Float) := []
  distinct : (entries.map Prod.fst).Nodup := by simp

namespace Symbols

@[ext] theorem ext {first second : Symbols} (same : first.entries = second.entries) :
    first = second := by
  cases first
  cases second
  congr

def empty : Symbols := {}

def names (symbols : Symbols) : List String :=
  symbols.entries.map Prod.fst

def get? (symbols : Symbols) (name : String) : Option Float :=
  symbols.entries.lookup name

def contains (symbols : Symbols) (name : String) : Bool :=
  name ∈ symbols.names

def size (symbols : Symbols) : Nat :=
  symbols.entries.length

def isEmpty (symbols : Symbols) : Bool :=
  symbols.entries.isEmpty

def declare (symbols : Symbols) (name : String) (value : Float) (line : Nat) :
    Except RuntimeError Symbols :=
  if known : name ∈ symbols.names then .error (.alreadyDeclared name line)
  else
    .ok {
      entries := symbols.entries ++ [(name, value)]
      distinct := by
        rw [List.map_append, List.nodup_append]
        exact ⟨symbols.distinct, by simp, by rintro a member b single rfl; simp_all [names]⟩ }

def replace (name : String) (value : Float) (entry : String × Float) : String × Float :=
  if entry.1 = name then (name, value) else entry

@[simp] theorem replace_fst (name : String) (value : Float) (entry : String × Float) :
    (replace name value entry).1 = entry.1 := by
  unfold replace
  split <;> simp_all

def assign (symbols : Symbols) (name : String) (value : Float) (line : Nat) :
    Except RuntimeError Symbols :=
  if name ∈ symbols.names then
    .ok {
      entries := symbols.entries.map (replace name value)
      distinct := by simpa [Function.comp_def] using symbols.distinct }
  else .error (.undeclared name line)

def lookup (symbols : Symbols) (name : String) (line : Nat) : Except RuntimeError Float :=
  match symbols.get? name with
  | some value => .ok value
  | none => .error (.undeclared name line)

def sorted (symbols : Symbols) : List (String × Float) :=
  symbols.entries.mergeSort (fun first second => first.1 ≤ second.1)

@[simp] theorem names_empty : empty.names = [] := rfl

theorem length_names (symbols : Symbols) : symbols.names.length = symbols.size :=
  List.length_map _

theorem declare_of_mem {symbols : Symbols} {name : String} (known : name ∈ symbols.names)
    (value : Float) (line : Nat) :
    symbols.declare name value line = .error (.alreadyDeclared name line) := by
  simp [declare, known]

theorem assign_of_not_mem {symbols : Symbols} {name : String} (unknown : name ∉ symbols.names)
    (value : Float) (line : Nat) :
    symbols.assign name value line = .error (.undeclared name line) := by
  simp [assign, unknown]

theorem names_declare {symbols next : Symbols} {name : String} {value : Float} {line : Nat}
    (done : symbols.declare name value line = .ok next) : next.names = symbols.names ++ [name] := by
  unfold declare at done
  split at done <;> simp at done
  simp [← done, names]

theorem names_assign {symbols next : Symbols} {name : String} {value : Float} {line : Nat}
    (done : symbols.assign name value line = .ok next) : next.names = symbols.names := by
  unfold assign at done
  split at done <;> simp at done
  simp [← done, names, Function.comp_def]

theorem contains_iff (symbols : Symbols) (name : String) :
    symbols.contains name ↔ name ∈ symbols.names := by
  simp [contains]

theorem get?_eq_none_iff (symbols : Symbols) (name : String) :
    symbols.get? name = none ↔ name ∉ symbols.names := by
  simp only [get?, names, List.lookup_eq_none_iff, List.mem_map, not_exists, not_and, ne_eq,
    bne_iff_ne]
  exact forall₂_congr fun _ _ => ne_comm

theorem get?_ne_none_iff (symbols : Symbols) (name : String) :
    symbols.get? name ≠ none ↔ name ∈ symbols.names := by
  rw [Ne, get?_eq_none_iff, Classical.not_not]

theorem get?_of_declare {symbols next : Symbols} {name : String} {value : Float} {line : Nat}
    (done : symbols.declare name value line = .ok next) : symbols.get? name = none := by
  rw [get?_eq_none_iff]
  intro known
  rw [declare_of_mem known] at done
  cases done

theorem get?_of_assign {symbols next : Symbols} {name : String} {value : Float} {line : Nat}
    (done : symbols.assign name value line = .ok next) : symbols.get? name ≠ none := by
  rw [Ne, get?_eq_none_iff]
  intro unknown
  rw [assign_of_not_mem unknown] at done
  cases done

theorem exists_declare {symbols : Symbols} {name : String} (missing : symbols.get? name = none)
    (value : Float) (line : Nat) : ∃ next, symbols.declare name value line = .ok next := by
  rw [declare, dif_neg ((symbols.get?_eq_none_iff name).1 missing)]
  exact ⟨_, rfl⟩

theorem exists_assign {symbols : Symbols} {name : String} (known : symbols.contains name)
    (value : Float) (line : Nat) : ∃ next, symbols.assign name value line = .ok next := by
  rw [assign, if_pos ((symbols.contains_iff name).1 known)]
  exact ⟨_, rfl⟩

theorem get?_declare {symbols next : Symbols} {name : String} {value : Float} {line : Nat}
    (done : symbols.declare name value line = .ok next) (other : String) :
    next.get? other = if other = name then some value else symbols.get? other := by
  unfold declare at done
  split at done
  · simp at done
  · rename_i unknown
    have missing := (get?_eq_none_iff symbols name).2 unknown
    simp only [Except.ok.injEq] at done
    subst done
    simp only [get?] at missing ⊢
    by_cases same : other = name
    · simp [List.lookup_append, same, missing]
    · simp [List.lookup_append, List.lookup_cons, beq_false_of_ne same, same]

theorem lookup_map_replace (entries : List (String × Float)) (name other : String) (value : Float) :
    (entries.map (replace name value)).lookup other =
      if other = name then (entries.lookup name).map (fun _ => value)
      else entries.lookup other := by
  induction entries with
  | nil => simp
  | cons entry rest ih =>
      obtain ⟨key, held⟩ := entry
      rw [List.map_cons, replace]
      by_cases same : key = name
      · subst same
        by_cases asked : other = key
        · simp [asked]
        · simp only [asked, if_false] at ih
          simp [asked, List.lookup_cons, beq_false_of_ne asked, ih]
      · by_cases asked : other = key
        · simp [asked, same]
        · simp only [same, if_false, List.lookup_cons, beq_false_of_ne asked, ih]
          by_cases target : other = name
          · simp [target, beq_false_of_ne (Ne.symm same)]
          · simp [target]

theorem get?_assign {symbols next : Symbols} {name : String} {value : Float} {line : Nat}
    (done : symbols.assign name value line = .ok next) (other : String) :
    next.get? other = if other = name then some value else symbols.get? other := by
  unfold assign at done
  split at done
  · rename_i known
    have present := (symbols.get?_ne_none_iff name).2 known
    obtain ⟨before, found⟩ := Option.ne_none_iff_exists'.1 present
    simp only [Except.ok.injEq] at done
    subst done
    simp only [get?] at found
    simp [get?, lookup_map_replace, found]
  · simp at done

end Symbols

end NumScript
