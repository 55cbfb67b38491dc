import ThresholdCheck.CommandLine.Word

/-!
# Environment variables

A variable is looked up by the text `name=` at the start of its assignment `name=value`. A name that
holds an equals sign itself therefore reaches into a value. Values need not be UTF-8; where a text
is wanted, a value that is none counts as no value. No name that is looked up is malformed, so that
variables with such names do not matter.

## Main definitions

* `Environment` — variables with their values
* `Environment.get?` — the value of a variable
* `Environment.text?` — the value of a variable, if it is a text
* `Environment.setIfUnset` — the environment with another variable, if it can be set

## Main results

* `Environment.valueAfter?_self` — a variable has the value that was assigned
* `Environment.get?_setIfUnset` — a variable that held no text holds what it was set to
* `Environment.get?_setIfUnset_of_ne` — and the other variables stay as they are
-/

namespace ThresholdCheck

/-- Variables with their values; the first of a name counts. -/
structure Environment where
  pairs : List (Text × Word)
deriving DecidableEq

namespace Environment

/-- Variables that hold texts. -/
instance : Coe (List (Text × Text)) (List (Text × Word)) :=
  ⟨List.map fun pair => (pair.1, pair.2)⟩

/-- No variables. -/
def empty : Environment := ⟨[]⟩

/-- What follows a name and an equals sign in the assignment of a variable. Nothing has the empty
name. -/
def valueAfter? (name : Text) (pair : Text × Word) : Option Word :=
  let assignment := pair.1 ++ '=' :: pair.2.text
  if !name.isEmpty && (name ++ ['=']).isPrefixOf assignment then
    some ⟨assignment.drop (name.length + 1), pair.2.tail⟩
  else none

/-- The value of a variable, if it is set. -/
def get? (env : Environment) (name : Text) : Option Word := env.pairs.findSome? (valueAfter? name)

/-- The value of a variable, if it is set to a text. -/
def text? (env : Environment) (name : Text) : Option Text := (env.get? name).bind Word.text?

/-- The pairs with a text as the value of a name, in the place of the value that counts so far. -/
def put (name value : Text) : List (Text × Word) → List (Text × Word)
  | [] => [(name, .ofText value)]
  | pair :: rest =>
    if (valueAfter? name pair).isSome then (name, .ofText value) :: rest
    else pair :: put name value rest

/-- Set a variable unless it is set to a text already. No variable can hold a NUL. -/
def setIfUnset (env : Environment) (name value : Text) : Option Environment :=
  if (env.text? name).isSome then some env
  else if value.contains '\x00' then none
  else some ⟨put name value env.pairs⟩

theorem valueAfter?_eq_some_iff {name : Text} {pair : Text × Word} {word : Word} :
    valueAfter? name pair = some word ↔
      name ≠ [] ∧ pair.1 ++ '=' :: pair.2.text = name ++ '=' :: word.text ∧
        pair.2.tail = word.tail := by
  have hlength : (name ++ ['=']).length = name.length + 1 := by simp
  simp only [valueAfter?, Option.ite_none_right_eq_some, Bool.and_eq_true, Bool.not_eq_true',
    List.isEmpty_eq_false_iff, List.isPrefixOf_iff_prefix, Option.some.injEq, and_assoc]
  constructor
  · rintro ⟨hname, ⟨after, hafter⟩, rfl⟩
    refine ⟨hname, ?_, rfl⟩
    rw [← hafter, ← hlength, List.drop_left, List.append_assoc, List.singleton_append]
  · rintro ⟨hname, hassign, htail⟩
    refine ⟨hname, ⟨word.text, by simp [hassign]⟩, ?_⟩
    rw [hassign, ← List.drop_drop, List.drop_left, List.drop_one, List.tail_cons, htail]

/-- A variable has the value that was assigned. -/
theorem valueAfter?_self {name : Text} (h : name ≠ []) (value : Word) :
    valueAfter? name (name, value) = some value :=
  valueAfter?_eq_some_iff.2 ⟨h, rfl, rfl⟩

/-- An assignment is to one name without an equals sign only. -/
theorem valueAfter?_eq_none_of_ne {name other : Text} {pair : Text × Word} (hne : other ≠ name)
    (hfree : '=' ∉ name) (hfree' : '=' ∉ other) (h : (valueAfter? name pair).isSome) :
    valueAfter? other pair = none := by
  obtain ⟨word, hword⟩ := Option.isSome_iff_exists.1 h
  obtain ⟨-, hassign, -⟩ := valueAfter?_eq_some_iff.1 hword
  rw [Option.eq_none_iff_forall_ne_some]
  intro word' hword'
  obtain ⟨-, hassign', -⟩ := valueAfter?_eq_some_iff.1 hword'
  have hcut := Text.cutFirst_eq_some_iff.2 ⟨hassign, hfree⟩
  rw [Text.cutFirst_eq_some_iff.2 ⟨hassign', hfree'⟩] at hcut
  exact hne (congrArg Prod.fst (Option.some.inj hcut))

/-! ### Setting a variable -/

section Put

variable {name other value : Text} (pairs : List (Text × Word))

theorem findSome?_put (hname : name ≠ []) :
    (put name value pairs).findSome? (valueAfter? name) = some (.ofText value) := by
  induction pairs with
  | nil => rw [put, List.findSome?_cons, valueAfter?_self hname]
  | cons pair rest ih =>
    rw [put]
    split
    · rw [List.findSome?_cons, valueAfter?_self hname]
    · rename_i hother
      rw [Option.not_isSome_iff_eq_none] at hother
      rw [List.findSome?_cons, hother]
      exact ih

theorem findSome?_put_of_ne (hname : name ≠ []) (hne : other ≠ name) (hfree : '=' ∉ name)
    (hfree' : '=' ∉ other) :
    (put name value pairs).findSome? (valueAfter? other) = pairs.findSome? (valueAfter? other) := by
  have hnew : valueAfter? other (name, .ofText value) = none := by
    refine valueAfter?_eq_none_of_ne hne hfree hfree' ?_
    rw [valueAfter?_self hname]
    rfl
  induction pairs with
  | nil => rw [put, List.findSome?_cons, hnew]
  | cons pair rest ih =>
    rw [put]
    split
    · rename_i hsame
      rw [List.findSome?_cons, List.findSome?_cons, hnew,
        valueAfter?_eq_none_of_ne hne hfree hfree' hsame]
    · rw [List.findSome?_cons, List.findSome?_cons, ih]

end Put

variable {env next : Environment} {name other value : Text}

/-- Setting a variable that held no text. -/
theorem setIfUnset_eq_some_iff (hunset : env.text? name = none) :
    env.setIfUnset name value = some next ↔
      '\x00' ∉ value ∧ next = ⟨put name value env.pairs⟩ := by
  simp [setIfUnset, hunset, eq_comm]

/-- A variable that held no text holds what it was set to. -/
theorem get?_setIfUnset (h : env.setIfUnset name value = some next) (hname : name ≠ [])
    (hunset : env.text? name = none) : next.get? name = some (.ofText value) := by
  obtain ⟨-, rfl⟩ := (setIfUnset_eq_some_iff hunset).1 h
  exact findSome?_put env.pairs hname

/-- The other variables stay as they are. -/
theorem get?_setIfUnset_of_ne (h : env.setIfUnset name value = some next) (hname : name ≠ [])
    (hne : other ≠ name) (hfree : '=' ∉ name) (hfree' : '=' ∉ other) :
    next.get? other = env.get? other := by
  cases hset : env.text? name with
  | none =>
    obtain ⟨-, rfl⟩ := (setIfUnset_eq_some_iff hset).1 h
    exact findSome?_put_of_ne env.pairs hname hne hfree hfree'
  | some t =>
    rw [setIfUnset, hset, Option.isSome_some, if_pos rfl, Option.some.injEq] at h
    rw [h]

/-- No text is lost. -/
theorem text?_setIfUnset (h : env.setIfUnset name value = some next) (hname : name ≠ [])
    (hfree : '=' ∉ name) (hfree' : '=' ∉ other) {t : Text} (hset : env.text? other = some t) :
    next.text? other = some t := by
  by_cases hne : other = name
  · subst hne
    rw [setIfUnset, hset, Option.isSome_some, if_pos rfl, Option.some.injEq] at h
    rw [← h, hset]
  · rw [text?, get?_setIfUnset_of_ne h hname hne hfree hfree']
    exact hset

end Environment

end ThresholdCheck
