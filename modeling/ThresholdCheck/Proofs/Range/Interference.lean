import Mathlib.Logic.Relation
import ThresholdCheck.Proofs.Range.Lists
import ThresholdCheck.Proofs.Verdict

/-!
# Metrics do not interfere

The pieces of a list are read one by one, and a metric selects the first range that is for it. So of
a whole list only one piece matters to a metric: the first one that names it. Other pieces can be
put in, left out and moved about, and further pieces for the metric can be put behind the first,
without any change to what is reported for it, as long as both lists are read at all.

## Main definitions

* `Text.NamesMetric` — a piece is for a metric, told by its text alone
* `RangeList.firstNaming?` — the one piece of a list that matters to a metric
* `RangeList.Edit` — changes to the pieces of a list that leave a metric alone

## Main results

* `RangeList.map_read_firstNaming?` — what is selected is read from the first piece that names it
* `RangeList.Edit.find?_eq` — an edit does not change this piece
* `Verdict.of_eq_of_firstNaming?` — verdicts do not depend on other pieces
-/

namespace ThresholdCheck

namespace Text

/-! ### Pieces that name a metric -/

/-- The piece begins with the metric and a comma. The empty metric is named by a piece without a
comma. -/
def NamesMetric (metric piece : Text) : Prop :=
  if metric = [] then piece ≠ [] ∧ ',' ∉ piece else ',' ∉ metric ∧ metric ++ [','] <+: piece

instance (metric piece : Text) : Decidable (NamesMetric metric piece) := by
  unfold NamesMetric
  infer_instance

theorem not_namesMetric_nil (metric : Text) : ¬ NamesMetric metric [] := by
  rw [NamesMetric]
  split <;> simp

/-- Behind a metric with its comma, no other metric is named. -/
theorem namesMetric_append_iff {metric other definition : Text} (hne : other ≠ [])
    (hcomma : ',' ∉ other) :
    NamesMetric metric (other ++ ',' :: definition) ↔ other = metric := by
  rw [NamesMetric]
  split
  · rename_i hempty
    simp [hempty, hne]
  · constructor
    · rintro ⟨hfree, rest, hpiece⟩
      rw [List.append_assoc, List.singleton_append] at hpiece
      exact ((append_sep_inj hfree hcomma).1 hpiece).1.symm
    · rintro rfl
      exact ⟨hcomma, definition, by simp⟩

end Text

/-- A piece that is read names the metric of its range and no other. -/
theorem AlertRange.metric_eq_iff_of_read {piece : Text} {range : AlertRange}
    (h : AlertRange.read piece = .ok range) (metric : Text) :
    range.metric = metric ↔ Text.NamesMetric metric piece := by
  obtain ⟨hpiece, hmetric, hdefinition⟩ := cutMetric_eq_ok (read_eq_ok_iff.1 h).1
  by_cases hempty : range.metric = []
  · rw [hempty, List.isEmpty_nil, if_pos rfl] at hpiece
    have hne : piece ≠ [] := by
      rintro rfl
      cases h
    rw [hempty, Text.NamesMetric]
    split
    · rename_i hname
      simp [hname, hne, hpiece ▸ hdefinition]
    · rename_i hname
      constructor
      · rintro rfl
        exact absurd rfl hname
      · rintro ⟨-, hfront⟩
        exact absurd (hfront.subset (by simp)) (hpiece ▸ hdefinition)
  · rw [if_neg (mt List.isEmpty_iff.1 hempty)] at hpiece
    rw [hpiece, Text.namesMetric_append_iff hempty hmetric]

namespace RangeList

variable {t t' metric : Text} {list list' : RangeList} {pieces pieces' : List Text}
  {ranges : List AlertRange}

/-! ### The piece that matters -/

/-- The first piece of a text that names the metric. -/
def firstNaming? (metric t : Text) : Option Text :=
  (Text.segments ';' t).find? fun piece => Text.NamesMetric metric piece

theorem AreRead.map_read_find? (h : AreRead pieces ranges) (metric : Text) :
    (pieces.find? fun piece => Text.NamesMetric metric piece).map AlertRange.read =
      (ranges.find? fun range => range.metric = metric).map .ok := by
  induction h with
  | nil => rfl
  | @cons piece range pieces ranges hread _ ih =>
    have hnames := AlertRange.metric_eq_iff_of_read hread metric
    by_cases hmetric : range.metric = metric
    · simp [hmetric, hnames.1 hmetric, hread]
    · simpa [hmetric, mt hnames.2 hmetric] using ih

/-- The range that a metric selects is read from the first piece that names it. -/
theorem map_read_firstNaming? (h : RangeList.read t = .ok list) (metric : Text) :
    (firstNaming? metric t).map AlertRange.read = (list.select metric).map .ok :=
  (read_eq_ok_iff.1 h).1.map_read_find? metric

theorem select_eq_of_firstNaming? (h : RangeList.read t = .ok list)
    (h' : RangeList.read t' = .ok list') (heq : firstNaming? metric t = firstNaming? metric t') :
    list.select metric = list'.select metric := by
  have hok : Function.Injective (Except.ok : AlertRange → Except RangeError AlertRange) :=
    fun _ _ => Except.ok.inj
  refine Option.map_injective hok ?_
  rw [← map_read_firstNaming? h, ← map_read_firstNaming? h', heq]

/-! ### Edits -/

/-- Changes to the pieces between semicolons that leave a metric alone. -/
inductive Edit (metric : Text) : List Text → List Text → Prop
  /-- A piece that does not name the metric is put in anywhere; it may be empty. -/
  | added (before after : List Text) {piece : Text} (h : ¬ Text.NamesMetric metric piece) :
      Edit metric (before ++ after) (before ++ piece :: after)
  /-- Any piece is put in behind one that names the metric; it may name the metric as well. -/
  | repeated (before between after : List Text) {first : Text} (piece : Text)
      (h : Text.NamesMetric metric first) :
      Edit metric (before ++ first :: (between ++ after))
        (before ++ first :: (between ++ piece :: after))
  /-- The pieces come in another order, but those that name the metric keep theirs. -/
  | reordered {pieces pieces' : List Text} (hperm : pieces.Perm pieces')
      (hsame : (pieces.filter fun piece => Text.NamesMetric metric piece) =
        pieces'.filter fun piece => Text.NamesMetric metric piece) :
      Edit metric pieces pieces'

/-- One edit does not change which piece is the first to name the metric. -/
theorem Edit.find?_eq (h : Edit metric pieces pieces') :
    (pieces.find? fun piece => Text.NamesMetric metric piece) =
      pieces'.find? fun piece => Text.NamesMetric metric piece := by
  cases h with
  | added before after h => simp [List.find?_append, h]
  | repeated before between after piece h => simp [List.find?_append, h]
  | reordered _ hsame => rw [← List.head?_filter, hsame, List.head?_filter]

/-- Nor does any number of edits, some of them undone. -/
theorem find?_eq_of_edits (h : Relation.EqvGen (Edit metric) pieces pieces') :
    (pieces.find? fun piece => Text.NamesMetric metric piece) =
      pieces'.find? fun piece => Text.NamesMetric metric piece := by
  induction h with
  | rel _ _ h => exact h.find?_eq
  | refl => rfl
  | symm _ _ _ ih => exact ih.symm
  | trans _ _ _ _ _ ih ih' => exact ih.trans ih'

/-- Empty pieces name no metric, so that it does not matter whether they have been dropped. -/
theorem firstNaming?_eq_find?_splitOn (metric t : Text) :
    firstNaming? metric t =
      (Text.splitOn ';' t).find? fun piece => Text.NamesMetric metric piece := by
  rw [firstNaming?, Text.segments, List.find?_filter]
  congr 1
  funext piece
  cases piece with
  | nil => simp [Text.not_namesMetric_nil]
  | cons c piece => simp

/-- The pieces of one text come from those of the other by edits, in whichever direction. -/
def Edited (metric t t' : Text) : Prop :=
  Relation.EqvGen (Edit metric) (Text.splitOn ';' t) (Text.splitOn ';' t')

theorem Edited.firstNaming?_eq (h : Edited metric t t') :
    firstNaming? metric t = firstNaming? metric t' := by
  rw [firstNaming?_eq_find?_splitOn, firstNaming?_eq_find?_splitOn, find?_eq_of_edits h]

end RangeList

namespace Verdict

variable {w w' c c' metric : Text} {warning warning' critical critical' : RangeList}

/-- **Metrics do not interfere.** Of two warning texts and of two critical texts, all of which are
read, let the first piece that names the metric be the same, or let no piece name it. Then both
pairs of lists come to the same verdict on every value of the metric. So edits to either text that
leave the metric alone never change its verdict. -/
theorem of_eq_of_firstNaming? (hwarning : RangeList.read w = .ok warning)
    (hwarning' : RangeList.read w' = .ok warning') (hcritical : RangeList.read c = .ok critical)
    (hcritical' : RangeList.read c' = .ok critical') :
    (RangeList.firstNaming? metric w = RangeList.firstNaming? metric w' →
      RangeList.firstNaming? metric c = RangeList.firstNaming? metric c' →
        ∀ value, of warning critical value metric = of warning' critical' value metric) ∧
    (RangeList.Edited metric w w' → RangeList.Edited metric c c' →
      ∀ value, of warning critical value metric = of warning' critical' value metric) := by
  have hsame : RangeList.firstNaming? metric w = RangeList.firstNaming? metric w' →
      RangeList.firstNaming? metric c = RangeList.firstNaming? metric c' →
        ∀ value, of warning critical value metric = of warning' critical' value metric := by
    intro hw hc value
    rw [of, of, RangeList.select_eq_of_firstNaming? hwarning hwarning' hw,
      RangeList.select_eq_of_firstNaming? hcritical hcritical' hc]
  exact ⟨hsame, fun hw hc => hsame hw.firstNaming?_eq hc.firstNaming?_eq⟩

/-- Another metric is moved behind, an empty piece and a second range of the metric are put in: the
same range alerts. The other metric goes from the critical list, which has none for this one. -/
theorem of_eq_of_firstNaming?_three_edits :
    let inside : AlertRange := ⟨"b".toList, "@0::".toList, ⟨.inside, .zero false, .posInf⟩⟩
    let whole (metric : Text) : AlertRange := ⟨metric, "~:".toList, ⟨.outside, .negInf, .posInf⟩⟩
    let warning : RangeList := ⟨[whole "a".toList, inside]⟩
    let warning' : RangeList := ⟨[inside, whole "b".toList, whole "a".toList]⟩
    let critical : RangeList := ⟨[whole "a".toList]⟩
    RangeList.read "a,~:;b,@0::".toList = .ok warning ∧
      RangeList.read ";b,@0::;b,~:;a,~:".toList = .ok warning' ∧
      RangeList.read "a,~:".toList = .ok critical ∧
      RangeList.Edited "b".toList "a,~:;b,@0::".toList ";b,@0::;b,~:;a,~:".toList ∧
      RangeList.Edited "b".toList "a,~:".toList [] ∧
      ∀ value, of warning critical value "b".toList = of warning' ⟨[]⟩ value "b".toList := by
  intro inside whole warning warning' critical
  have hwarning : RangeList.read "a,~:;b,@0::".toList = .ok warning := by decide +kernel
  have hwarning' : RangeList.read ";b,@0::;b,~:;a,~:".toList = .ok warning' := by decide +kernel
  have hcritical : RangeList.read "a,~:".toList = .ok critical := by decide +kernel
  have hedited : RangeList.Edited "b".toList "a,~:;b,@0::".toList ";b,@0::;b,~:;a,~:".toList := by
    have hmoved : RangeList.Edit "b".toList ["a,~:".toList, "b,@0::".toList]
        ["b,@0::".toList, "a,~:".toList] := .reordered (.swap _ _ _) (by decide)
    have hrepeated : RangeList.Edit "b".toList ["b,@0::".toList, "a,~:".toList]
        ["b,@0::".toList, "b,~:".toList, "a,~:".toList] :=
      .repeated [] [] ["a,~:".toList] "b,~:".toList (by decide)
    have hempty : RangeList.Edit "b".toList ["b,@0::".toList, "b,~:".toList, "a,~:".toList]
        [[], "b,@0::".toList, "b,~:".toList, "a,~:".toList] :=
      .added [] _ (Text.not_namesMetric_nil _)
    exact ((Relation.EqvGen.rel _ _ hmoved).trans _ _ _ (.rel _ _ hrepeated)).trans _ _ _
      (.rel _ _ hempty)
  have hremoved : RangeList.Edited "b".toList "a,~:".toList [] := by
    have hempty : RangeList.Edit "b".toList [] [[]] := .added [] [] (Text.not_namesMetric_nil _)
    have hother : RangeList.Edit "b".toList [] ["a,~:".toList] := .added [] [] (by decide)
    exact .trans _ _ _ (.symm _ _ (.rel _ _ hother)) (.rel _ _ hempty)
  obtain ⟨-, hsame⟩ := of_eq_of_firstNaming? hwarning hwarning' hcritical RangeList.read_nil
  exact ⟨hwarning, hwarning', hcritical, hedited, hremoved, hsame hedited hremoved⟩

end Verdict

end ThresholdCheck
