import Mathlib.Data.List.Forall2

/-!
# Computations that can fail

When a chain of computations succeeds, each link of it has, and a list of computations succeeds
item by item. A chain fails at its first link that fails, and so does a list. Proofs about readers
take them apart by these statements.

## Main definitions

* `Except.FirstFailure` — the first item of a list that fails

## Main results

* `Except.bind_eq_ok_iff`, `Except.map_eq_ok_iff`, `Except.mapError_eq_ok_iff` — success of a chain
* `Except.bind_eq_error_iff`, `Except.map_eq_error_iff`, `Except.mapError_eq_error_iff` — failure of
  a chain
* `Except.mapM_eq_ok_iff`, `Except.exists_mem_of_mapM_eq_ok` — success of a list
* `Except.mapM_eq_error_iff`, `Except.exists_mapM_eq_error` — failure of a list
-/

namespace Except

variable {ε α β : Type}

theorem bind_eq_ok_iff {x : Except ε α} {f : α → Except ε β} {b : β} :
    x >>= f = .ok b ↔ ∃ a, x = .ok a ∧ f a = .ok b := by
  cases x <;> simp [bind, Except.bind]

theorem bind_eq_error_iff {x : Except ε α} {f : α → Except ε β} {e : ε} :
    x >>= f = .error e ↔ x = .error e ∨ ∃ a, x = .ok a ∧ f a = .error e := by
  cases x <;> simp [bind, Except.bind]

theorem mapError_eq_ok_iff {ε' : Type} {x : Except ε α} {f : ε → ε'} {a : α} :
    x.mapError f = .ok a ↔ x = .ok a := by
  cases x <;> simp [Except.mapError]

theorem mapError_eq_error_iff {ε' : Type} {x : Except ε α} {f : ε → ε'} {e : ε'} :
    x.mapError f = .error e ↔ ∃ cause, x = .error cause ∧ f cause = e := by
  cases x <;> simp [Except.mapError]

theorem map_eq_ok_iff {x : Except ε α} {f : α → β} {b : β} :
    x.map f = .ok b ↔ ∃ a, x = .ok a ∧ f a = b := by
  cases x <;> simp [Except.map]

theorem map_eq_error_iff {x : Except ε α} {f : α → β} {e : ε} :
    x.map f = .error e ↔ x = .error e := by
  cases x <;> simp [Except.map]

/-- A list of computations succeeds if each one does, with their values in order. -/
theorem mapM_eq_ok_iff {f : α → Except ε β} {as : List α} {bs : List β} :
    as.mapM f = .ok bs ↔ List.Forall₂ (fun a b => f a = .ok b) as bs := by
  induction as generalizing bs with
  | nil => simp [pure, Except.pure, eq_comm]
  | cons a as ih =>
    rw [List.mapM_cons, bind_eq_ok_iff, List.forall₂_cons_left_iff]
    constructor
    · rintro ⟨b, hb, h⟩
      obtain ⟨rest, hrest, h⟩ := bind_eq_ok_iff.1 h
      cases h
      exact ⟨b, rest, hb, ih.1 hrest, rfl⟩
    · rintro ⟨b, rest, hb, hrest, rfl⟩
      exact ⟨b, hb, bind_eq_ok_iff.2 ⟨rest, ih.2 hrest, rfl⟩⟩

theorem exists_mem_of_mapM_eq_ok {f : α → Except ε β} {as : List α} {bs : List β}
    (h : as.mapM f = .ok bs) {b : β} (hb : b ∈ bs) : ∃ a ∈ as, f a = .ok b := by
  replace h := mapM_eq_ok_iff.1 h
  induction h with
  | nil => cases hb
  | cons hfirst _ ih =>
    rcases List.mem_cons.1 hb with rfl | hb
    · exact ⟨_, List.mem_cons_self .., hfirst⟩
    · obtain ⟨a, ha, heq⟩ := ih hb
      exact ⟨a, List.mem_cons_of_mem _ ha, heq⟩

/-- A step after each item is a step after the list. -/
theorem mapM_map {γ : Type} {f : α → Except ε β} {g : β → γ} {as : List α} :
    (as.mapM fun a => (f a).map g) = (as.mapM f).map (List.map g) := by
  induction as with
  | nil => rfl
  | cons a as ih =>
    rw [List.mapM_cons, List.mapM_cons, ih]
    cases f a with
    | error e => rfl
    | ok b => cases as.mapM f <;> rfl

/-- A list fails if some item of it does. -/
theorem exists_mapM_eq_error {f : α → Except ε β} {as : List α} {a : α} {e : ε} (ha : a ∈ as)
    (h : f a = .error e) : ∃ e', as.mapM f = .error e' := by
  induction as with
  | nil => cases ha
  | cons x as ih =>
    simp only [List.mapM_cons, bind_eq_error_iff]
    cases hx : f x with
    | error e' => exact ⟨e', .inl rfl⟩
    | ok b =>
      rcases List.mem_cons.1 ha with rfl | ha
      · rw [h] at hx
        cases hx
      · obtain ⟨e', he'⟩ := ih ha
        exact ⟨e', .inr ⟨b, rfl, .inl he'⟩⟩

/-- Nothing behind the first failure matters. -/
theorem mapM_append_of_error {f : α → Except ε β} {as : List α} {e : ε}
    (h : as.mapM f = .error e) (bs : List α) : (as ++ bs).mapM f = .error e := by
  rw [List.mapM_append, h]
  rfl

/-- The first item that fails, with its error: every item before it succeeds. -/
def FirstFailure (f : α → Except ε β) (as : List α) (a : α) (e : ε) : Prop :=
  ∃ before after, as = before ++ a :: after ∧ (∀ x ∈ before, ∃ b, f x = .ok b) ∧ f a = .error e

/-- Behind an item that succeeds, the first failure is that of the rest. -/
theorem firstFailure_cons_of_ok {f : α → Except ε β} {a x : α} {as : List α} {b : β} {e : ε}
    (ha : f a = .ok b) : FirstFailure f (a :: as) x e ↔ FirstFailure f as x e := by
  constructor
  · rintro ⟨before, after, heq, hbefore, hx⟩
    cases before with
    | nil =>
      obtain ⟨rfl, -⟩ := List.cons.inj heq
      rw [ha] at hx
      cases hx
    | cons y before =>
      obtain ⟨rfl, rfl⟩ := List.cons.inj heq
      exact ⟨before, after, rfl, fun z hz => hbefore z (List.mem_cons_of_mem _ hz), hx⟩
  · rintro ⟨before, after, rfl, hbefore, hx⟩
    exact ⟨a :: before, after, rfl, List.forall_mem_cons.2 ⟨⟨b, ha⟩, hbefore⟩, hx⟩

/-- A first item that fails is the first failure, whatever follows it. -/
theorem firstFailure_cons_of_error {f : α → Except ε β} {a x : α} {as : List α} {e e' : ε}
    (ha : f a = .error e) : FirstFailure f (a :: as) x e' ↔ x = a ∧ e' = e := by
  constructor
  · rintro ⟨before, after, heq, hbefore, hx⟩
    cases before with
    | nil =>
      obtain ⟨rfl, -⟩ := List.cons.inj heq
      exact ⟨rfl, Except.error.inj (hx.symm.trans ha)⟩
    | cons y before =>
      obtain ⟨rfl, -⟩ := List.cons.inj heq
      obtain ⟨b, hb⟩ := hbefore a (List.mem_cons_self ..)
      rw [ha] at hb
      cases hb
  · rintro ⟨rfl, rfl⟩
    exact ⟨[], as, rfl, by simp, ha⟩

/-- A list of computations fails with the error of the first one that does. -/
theorem mapM_eq_error_iff {f : α → Except ε β} {as : List α} {e : ε} :
    as.mapM f = .error e ↔ ∃ a, FirstFailure f as a e := by
  induction as with
  | nil => simp [FirstFailure, pure, Except.pure]
  | cons a as ih =>
    rw [List.mapM_cons, bind_eq_error_iff]
    cases ha : f a with
    | error e' => simp [firstFailure_cons_of_error ha, eq_comm]
    | ok b => simp [firstFailure_cons_of_ok ha, ← ih, bind_eq_error_iff, pure, Except.pure]

end Except
