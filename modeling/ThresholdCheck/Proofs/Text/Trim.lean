import Mathlib.Data.List.DropRight
import ThresholdCheck.Text.CodePoints

/-!
# White space around a text

Trimming leaves a text without white space at its ends and takes away nothing but white space. There
is one such text only, so these two facts say what trimming is, and nothing else about it is needed.

## Main definitions

* `Text.IsBlankRun` — nothing but white space
* `Text.Tight` — a text without white space at its ends
* `Text.Pads` — a text in white space

## Main results

* `Text.trim_eq_iff` — what is left of a text
* `Text.trim_eq_self_iff`, `Text.tight_trim` — the texts that trimming leaves as they are
-/

namespace ThresholdCheck

namespace Text

variable {s t core : Text}

/-- Nothing but white space. -/
def IsBlankRun (s : Text) : Prop := ∀ c ∈ s, isBlank c

/-- No white space stands at either end. -/
structure Tight (t : Text) : Prop where
  head : ∀ c ∈ t.head?, ¬ isBlank c
  last : ∀ c ∈ t.getLast?, ¬ isBlank c

theorem tight_iff :
    Tight t ↔ t.head?.all (!isBlank ·) = true ∧ t.getLast?.all (!isBlank ·) = true := by
  simp only [Option.all_eq_true, Bool.not_eq_true']
  constructor
  · exact fun h => ⟨fun c hc => by simpa using h.head c hc, fun c hc => by simpa using h.last c hc⟩
  · exact fun h => ⟨fun c hc => by simp [h.1 c hc], fun c hc => by simp [h.2 c hc]⟩

instance (t : Text) : Decidable (Tight t) := decidable_of_iff _ tight_iff.symm

/-- The text `t` is `core` with white space around it. -/
def Pads (core t : Text) : Prop :=
  ∃ before after, IsBlankRun before ∧ IsBlankRun after ∧ t = before ++ core ++ after

theorem Pads.refl (t : Text) : Pads t t :=
  ⟨[], [], by simp [IsBlankRun], by simp [IsBlankRun], by simp⟩

/-- Padding adds nothing but white space. -/
theorem Pads.mem_iff {c : Char} (h : Pads core t) (hc : ¬ isBlank c) : c ∈ t ↔ c ∈ core := by
  obtain ⟨before, after, hbefore, hafter, rfl⟩ := h
  have hstart : c ∉ before := mt (hbefore c) hc
  have hend : c ∉ after := mt (hafter c) hc
  simp [hstart, hend]

/-! ### One end -/

theorem trimStart_append (hs : IsBlankRun s) (ht : ∀ c ∈ t.head?, ¬ isBlank c) :
    trimStart (s ++ t) = t := by
  rw [trimStart, List.dropWhile_append_of_pos hs]
  cases t with
  | nil => rfl
  | cons c t => exact List.dropWhile_cons_of_neg (ht c rfl)

/-- The end of a text is the start of the reversed one. -/
theorem trimEnd_append (hs : IsBlankRun s) (ht : ∀ c ∈ t.getLast?, ¬ isBlank c) :
    trimEnd (t ++ s) = t := by
  have hreverse : trimStart (s.reverse ++ t.reverse) = t.reverse := by
    refine trimStart_append (fun c hc => hs c (List.mem_reverse.1 hc)) fun c hc => ?_
    rw [List.head?_reverse] at hc
    exact ht c hc
  rw [trimEnd, List.reverse_append]
  exact (congrArg List.reverse hreverse).trans (List.reverse_reverse t)

theorem not_isBlank_of_mem_head? {c : Char} (h : c ∈ (t.dropWhile isBlank).head?) :
    ¬ isBlank c := by
  have hhead := List.head?_dropWhile_not isBlank t
  rw [Option.mem_def.1 h] at hhead
  simpa using hhead

/-! ### Both ends -/

theorem tight_trim (t : Text) : Tight (trim t) := by
  constructor
  · intro c hc
    obtain ⟨rest, hrest⟩ := List.rdropWhile_prefix isBlank (trimStart t)
    refine not_isBlank_of_mem_head? (t := t) ?_
    change c ∈ (trimStart t).head?
    rw [← hrest]
    exact List.mem_head?_append_of_mem_head? hc
  · intro c hc
    rw [trim, trimEnd, List.getLast?_reverse] at hc
    exact not_isBlank_of_mem_head? hc

theorem pads_trim (t : Text) : Pads (trim t) t := by
  refine ⟨t.takeWhile isBlank, (trimStart t).rtakeWhile isBlank, ?_, ?_, ?_⟩
  · exact fun _ => List.mem_takeWhile_imp
  · exact fun _ => List.mem_rtakeWhile_imp
  · have hend : trim t ++ (trimStart t).rtakeWhile isBlank = trimStart t :=
      List.rdropWhile_append_rtakeWhile
    rw [List.append_assoc, hend]
    exact List.takeWhile_append_dropWhile.symm

theorem Pads.trim_eq (h : Pads core t) (hcore : Tight core) : trim t = core := by
  obtain ⟨before, after, hbefore, hafter, rfl⟩ := h
  -- without a core nothing tells the two runs of white space apart
  by_cases hempty : core = []
  · subst hempty
    have hblank : IsBlankRun (before ++ [] ++ after) := by
      simpa [IsBlankRun, or_imp, forall_and] using And.intro hbefore hafter
    have hstart := trimStart_append (t := []) hblank (by simp)
    rw [List.append_nil] at hstart
    rw [trim, hstart]
    rfl
  · have hhead : ∀ c ∈ (core ++ after).head?, ¬ isBlank c := by
      rw [List.head?_append_of_ne_nil core hempty]
      exact hcore.head
    rw [trim, List.append_assoc, trimStart_append hbefore hhead, trimEnd_append hafter hcore.last]

/-- What is left of a text has no white space at its ends and had only white space around it. -/
theorem trim_eq_iff : trim t = core ↔ Tight core ∧ Pads core t := by
  constructor
  · rintro rfl
    exact ⟨tight_trim t, pads_trim t⟩
  · exact fun h => h.2.trim_eq h.1

theorem trim_eq_self_iff : trim t = t ↔ Tight t :=
  ⟨fun h => h ▸ tight_trim t, (Pads.refl t).trim_eq⟩

end Text

end ThresholdCheck
