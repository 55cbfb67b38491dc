import ThresholdCheck.Severity

/-!
# The severity of several measurements

Combining is a commutative monoid, so a fold can be split anywhere and taken in any order. Which
severity it comes to is told by which severities occur at all.

## Main definitions

* `Severity.Spelled` — a severity and its name

## Main results

* `Severity.label_inj` — the name tells the severity
* `Severity.foldl_combine` — a fold that is already under way
* `Severity.fold_perm` — the order does not matter
* `Severity.fold_eq_critical_iff`, `Severity.fold_eq_warning_iff`, `Severity.fold_ne_unknown` — what
  a fold comes to
-/

namespace ThresholdCheck

namespace Severity

/-! ### Names -/

/-- The name of a severity on the status line. -/
inductive Spelled : Severity → Text → Prop
  | ok : Spelled .ok "OK".toList
  | warning : Spelled .warning "WARNING".toList
  | critical : Spelled .critical "CRITICAL".toList
  | unknown : Spelled .unknown "UNKNOWN".toList

theorem spelled_label (s : Severity) : s.Spelled s.label := by
  cases s <;> constructor

theorem label_inj {s t : Severity} : s.label = t.label ↔ s = t := by
  cases s <;> cases t <;> decide

theorem blank_not_mem_label (s : Severity) : ' ' ∉ s.label := by
  cases s <;> decide

/-! ### One after the other -/

theorem foldl_combine (severities : List Severity) (s : Severity) :
    severities.foldl combine s = s.combine (fold severities) := by
  induction severities generalizing s with
  | nil => exact (combine_ok s).symm
  | cons t severities ih =>
    rw [fold, List.foldl_cons, List.foldl_cons, ih, ih (ok.combine t), ok_combine, combine_assoc]

theorem fold_cons (s : Severity) (severities : List Severity) :
    fold (s :: severities) = s.combine (fold severities) := by
  rw [fold, List.foldl_cons, ok_combine, foldl_combine]

theorem fold_perm {severities severities' : List Severity} (h : severities.Perm severities') :
    fold severities = fold severities' := by
  refine h.foldl_eq' (fun s _ t _ u => ?_) ok
  rw [combine_assoc, combine_comm s, ← combine_assoc]

/-! ### What a fold comes to -/

theorem combine_eq_critical_iff {s t : Severity} :
    s.combine t = critical ↔ s = critical ∨ t = critical := by
  cases s <;> cases t <;> decide

theorem combine_eq_warning_iff {s t : Severity} :
    s.combine t = warning ↔
      (s ≠ critical ∧ t ≠ critical) ∧ (s = warning ∨ t = warning) := by
  cases s <;> cases t <;> decide

theorem fold_eq_critical_iff {severities : List Severity} :
    fold severities = critical ↔ critical ∈ severities := by
  induction severities with
  | nil => simp [fold]
  | cons s severities ih => rw [fold_cons, combine_eq_critical_iff, ih, List.mem_cons, eq_comm]

theorem fold_eq_warning_iff {severities : List Severity} :
    fold severities = warning ↔ critical ∉ severities ∧ warning ∈ severities := by
  induction severities with
  | nil => simp [fold]
  | cons s severities ih =>
    rw [fold_cons, combine_eq_warning_iff, ih, Ne, Ne, fold_eq_critical_iff, List.mem_cons,
      List.mem_cons]
    grind

/-- Where every severity is known, so is their fold. -/
theorem fold_ne_unknown {severities : List Severity} (h : unknown ∉ severities) :
    fold severities ≠ unknown := by
  induction severities with
  | nil => simp [fold]
  | cons s severities ih =>
    rw [List.mem_cons, not_or] at h
    have hrest := ih h.2
    rw [fold_cons]
    generalize fold severities = t at hrest
    cases s <;> cases t <;> simp_all [combine]

end Severity

end ThresholdCheck
