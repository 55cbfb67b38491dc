import ThresholdCheck.Proofs.Range.Written
import ThresholdCheck.Range.List

/-!
# Lists of ranges, piece by piece

A list is read piece by piece, and the first piece that is no range decides: what follows it is not
looked at. Only if every piece is a range does it matter whether they have metrics. Since a piece is
written as it was read, a list can be put together from its ranges again.

## Main definitions

* `RangeList.AreRead` — pieces with the ranges that they are
* `RangeList.Outcome` — what a list of pieces comes to

## Main results

* `RangeList.read_eq_ok_iff`, `RangeList.read_eq_error_iff` — when a list is read, and when refused
* `RangeList.read_eq_iff_outcome` — what a list is read as is what its pieces come to
* `RangeList.read_piecewise` — the same with what it says about errors
* `RangeList.read_written` — ranges and lists are written as they were read
-/

namespace ThresholdCheck

namespace RangeList

/-! ### Pieces that are ranges -/

/-- The pieces are these ranges, in order. -/
abbrev AreRead (pieces : List Text) (ranges : List AlertRange) : Prop :=
  List.Forall₂ (fun piece range => AlertRange.read piece = .ok range) pieces ranges

variable {t t' : Text} {pieces : List Text} {ranges : List AlertRange} {list : RangeList}
  {e : RangeError}

theorem AreRead.exists_metric_eq_nil_iff (h : AreRead pieces ranges) :
    (∃ range ∈ ranges, range.metric = []) ↔ ∃ piece ∈ pieces, ',' ∉ piece := by
  induction h with
  | nil => simp
  | cons hread _ ih =>
    simp only [List.mem_cons, exists_eq_or_imp, ih, AlertRange.metric_eq_nil_iff_of_read hread]

/-- The ranges are written as the pieces they were read from. -/
theorem AreRead.map_text (h : AreRead pieces ranges) : ranges.map AlertRange.text = pieces := by
  induction h with
  | nil => rfl
  | cons hread _ ih => rw [List.map_cons, AlertRange.text_of_read hread, ih]

/-! ### Lists that are read, and lists that are refused -/

theorem read_eq_ok_iff :
    RangeList.read t = .ok list ↔ AreRead (Text.segments ';' t) list.ranges ∧
      (1 < list.ranges.length → ∀ range ∈ list.ranges, range.metric ≠ []) := by
  rw [RangeList.read, Except.bind_eq_ok_iff]
  simp only [Except.mapM_eq_ok_iff]
  constructor
  · rintro ⟨ranges, hread, h⟩
    split at h
    · cases h
    · rename_i hnamed
      cases h
      exact ⟨hread, by simpa using hnamed⟩
  · rintro ⟨hread, hnamed⟩
    refine ⟨list.ranges, hread, if_neg ?_⟩
    simpa using hnamed

theorem read_eq_error_iff :
    RangeList.read t = .error e ↔
      (∃ piece, Except.FirstFailure AlertRange.read (Text.segments ';' t) piece e) ∨
        ∃ ranges, AreRead (Text.segments ';' t) ranges ∧ 1 < ranges.length ∧
          (∃ range ∈ ranges, range.metric = []) ∧ e = .missingMetric := by
  rw [RangeList.read, Except.bind_eq_error_iff, Except.mapM_eq_error_iff]
  simp only [Except.mapM_eq_ok_iff]
  refine or_congr_right (exists_congr fun ranges => and_congr_right fun _ => ?_)
  split
  · rename_i hbare
    simp only [Bool.and_eq_true, decide_eq_true_eq, List.any_eq_true, List.isEmpty_iff] at hbare
    simp [hbare, eq_comm]
  · rename_i hnamed
    simp only [Bool.and_eq_true, decide_eq_true_eq, List.any_eq_true, List.isEmpty_iff] at hnamed
    constructor
    · intro h
      cases h
    · rintro ⟨hseveral, hbare, -⟩
      exact absurd ⟨hseveral, hbare⟩ hnamed

/-- A range of a list is one of its pieces. -/
theorem exists_read_of_mem (h : RangeList.read t = .ok list) {range : AlertRange}
    (hmem : range ∈ list.ranges) :
    ∃ piece ∈ Text.segments ';' t, AlertRange.read piece = .ok range :=
  Except.exists_mem_of_mapM_eq_ok (Except.mapM_eq_ok_iff.2 (read_eq_ok_iff.1 h).1) hmem

/-! ### What pieces come to -/

/-- What a list of pieces comes to: the error of the first piece that is no range, an error for the
metric that one of several ranges lacks, or the ranges in order. -/
inductive Outcome (pieces : List Text) : Except RangeError RangeList → Prop
  | refused {piece : Text} {e : RangeError}
      (h : Except.FirstFailure AlertRange.read pieces piece e) : Outcome pieces (.error e)
  | unnamed {ranges : List AlertRange} (h : AreRead pieces ranges) (hseveral : 1 < pieces.length)
      (hbare : ∃ piece ∈ pieces, ',' ∉ piece) : Outcome pieces (.error .missingMetric)
  | accepted {ranges : List AlertRange} (h : AreRead pieces ranges)
      (hnamed : 1 < pieces.length → ∀ piece ∈ pieces, ',' ∈ piece) : Outcome pieces (.ok ⟨ranges⟩)

theorem outcome_read (t : Text) : Outcome (Text.segments ';' t) (RangeList.read t) := by
  cases hread : RangeList.read t with
  | ok list =>
    obtain ⟨hranges, hnamed⟩ := read_eq_ok_iff.1 hread
    refine .accepted hranges fun hseveral piece hpiece => ?_
    by_contra hcomma
    obtain ⟨range, hrange, hmetric⟩ := hranges.exists_metric_eq_nil_iff.2 ⟨piece, hpiece, hcomma⟩
    exact hnamed (hranges.length_eq ▸ hseveral) range hrange hmetric
  | error e =>
    rcases read_eq_error_iff.1 hread with ⟨piece, h⟩ | ⟨ranges, h, hseveral, hbare, rfl⟩
    · exact .refused h
    · exact .unnamed h (h.length_eq ▸ hseveral) (h.exists_metric_eq_nil_iff.1 hbare)

theorem read_of_outcome {result : Except RangeError RangeList}
    (h : Outcome (Text.segments ';' t) result) : RangeList.read t = result := by
  cases h with
  | refused h => exact read_eq_error_iff.2 (.inl ⟨_, h⟩)
  | unnamed h hseveral hbare =>
    have hmetric := h.exists_metric_eq_nil_iff.2 hbare
    exact read_eq_error_iff.2 (.inr ⟨_, h, h.length_eq ▸ hseveral, hmetric, rfl⟩)
  | accepted h hnamed =>
    refine read_eq_ok_iff.2 ⟨h, fun hseveral range hrange hmetric => ?_⟩
    obtain ⟨piece, hpiece, hcomma⟩ := h.exists_metric_eq_nil_iff.1 ⟨range, hrange, hmetric⟩
    exact hcomma (hnamed (h.length_eq ▸ hseveral) piece hpiece)

theorem read_eq_iff_outcome {result : Except RangeError RangeList} :
    RangeList.read t = result ↔ Outcome (Text.segments ';' t) result :=
  ⟨fun h => h ▸ outcome_read t, read_of_outcome⟩

theorem read_ne_emptyValue (t : Text) : RangeList.read t ≠ .error .emptyValue := by
  intro h
  rcases read_eq_error_iff.1 h with ⟨piece, _, _, -, -, hpiece⟩ | ⟨_, -, -, -, he⟩
  · exact AlertRange.read_ne_error (.inr rfl) hpiece
  · cases he

/-- An error about a bound is about the first faulty bound of the first piece that is no range. -/
theorem exists_firstFaulty_of_names {bound : Text} (h : RangeList.read t = .error e)
    (hnames : e.Names bound) :
    ∃ piece, Except.FirstFailure AlertRange.read (Text.segments ';' t) piece e ∧
      AlertRange.FirstFaulty piece bound e ∧ bound ≠ [] ∧ ';' ∉ bound ∧ ',' ∉ bound ∧
      ':' ∉ bound := by
  rcases read_eq_error_iff.1 h with ⟨piece, hfailure⟩ | ⟨_, -, -, -, rfl⟩
  · obtain ⟨before, after, hpieces, -, hpiece⟩ := id hfailure
    have hfaulty := AlertRange.firstFaulty_of_names hpiece hnames
    have hsemicolon : ';' ∉ piece :=
      Text.not_mem_of_mem_segments (t := t) (by rw [hpieces]; simp)
    exact ⟨piece, hfailure, hfaulty, hfaulty.ne_nil, fun hc => hsemicolon (hfaulty.subset hc),
      hfaulty.comma_not_mem, hfaulty.colon_not_mem⟩
  · cases hnames

/-- **A list is read piece by piece, and its first faulty piece decides.** The outcome is that of
the pieces: the error of the first one that is no range, which is never that a metric is missing;
that error, if one of several ranges names no metric; or else the ranges. No error says that a bound
is empty, and one that names a bound names the first faulty bound of the first faulty piece. -/
theorem read_piecewise (t : Text) :
    (∀ result, RangeList.read t = result ↔ Outcome (Text.segments ';' t) result) ∧
      (∀ piece, AlertRange.read piece ≠ .error .missingMetric) ∧
      (∀ list, RangeList.read t = .ok list → 1 < list.ranges.length →
        ∀ range ∈ list.ranges, range.metric ≠ []) ∧
      (AlertRange.read t ≠ .error .emptyValue ∧ RangeList.read t ≠ .error .emptyValue) ∧
      ∀ e bound, RangeList.read t = .error e → e.Names bound →
        ∃ piece, Except.FirstFailure AlertRange.read (Text.segments ';' t) piece e ∧
          AlertRange.FirstFaulty piece bound e ∧ bound ≠ [] ∧ ';' ∉ bound ∧ ',' ∉ bound ∧
          ':' ∉ bound :=
  ⟨fun _ => read_eq_iff_outcome, fun _ => AlertRange.read_ne_error (.inl rfl),
    fun _ h => (read_eq_ok_iff.1 h).2,
    ⟨AlertRange.read_ne_error (.inr rfl), read_ne_emptyValue t⟩,
    fun _ _ => exists_firstFaulty_of_names⟩

/-- A bound of the second piece is faulty: the piece behind it, which lacks its definition, is not
looked at. -/
theorem read_piecewise_faulty_bound :
    let t := ";a,~:;b,~:x;c,".toList
    RangeList.read t = .error (.notANumber "x".toList) ∧
      ∃ piece, Except.FirstFailure AlertRange.read (Text.segments ';' t) piece
          (.notANumber "x".toList) ∧
        AlertRange.FirstFaulty piece "x".toList (.notANumber "x".toList) := by
  intro t
  have hread : RangeList.read t = .error (.notANumber "x".toList) := by decide +kernel
  obtain ⟨piece, hfailure, hfaulty, -⟩ :=
    (read_piecewise t).2.2.2.2 _ _ hread (.notANumber "x".toList)
  exact ⟨hread, piece, hfailure, hfaulty⟩

/-! ### Lists put together from their ranges -/

/-- Only the pieces of a list matter. -/
theorem read_congr (h : Text.segments ';' t = Text.segments ';' t') :
    RangeList.read t = RangeList.read t' := by
  rw [RangeList.read, RangeList.read, h]

theorem map_text_of_read (h : RangeList.read t = .ok list) :
    list.ranges.map AlertRange.text = Text.segments ';' t :=
  (read_eq_ok_iff.1 h).1.map_text

/-- The ranges of a list as they are written, with a semicolon between neighbours. -/
def text (list : RangeList) : Text := Text.joinWith [';'] (list.ranges.map AlertRange.text)

theorem read_text_of_read (h : RangeList.read t = .ok list) :
    RangeList.read list.text = .ok list := by
  have hpieces : Text.segments ';' list.text = Text.segments ';' t := by
    rw [text, map_text_of_read h, Text.segments_joinWith_segments]
  rw [read_congr hpieces, h]

/-- **Ranges and lists are written as they were read.** A range is written as the text it was read
from, a list as its pieces in order. Either is read again from what is written, and the same ranges
are selected. -/
theorem read_written (t : Text) :
    (∀ range, AlertRange.read t = .ok range →
      range.text = t ∧ AlertRange.read range.text = .ok range) ∧
    ∀ list, RangeList.read t = .ok list →
      list.ranges.map AlertRange.text = Text.segments ';' t ∧
        RangeList.read list.text = .ok list ∧
        ∀ metric, (RangeList.read list.text).map (select · metric) = .ok (list.select metric) := by
  refine ⟨fun range h => ?_, fun list h => ?_⟩
  · have ht := AlertRange.text_of_read h
    exact ⟨ht, by rw [ht, h]⟩
  · have hagain := read_text_of_read h
    exact ⟨map_text_of_read h, hagain, fun _ => by rw [hagain]; rfl⟩

/-- Empty pieces are lost, repeated metrics are not. -/
theorem read_written_repeated_metric :
    let t := ";;load,~:;load,@inf:;".toList
    let list : RangeList := ⟨[⟨"load".toList, "~:".toList, ⟨.outside, .negInf, .posInf⟩⟩,
      ⟨"load".toList, "@inf:".toList, ⟨.inside, .posInf, .posInf⟩⟩]⟩
    RangeList.read t = .ok list ∧ list.text = "load,~:;load,@inf:".toList ∧
      RangeList.read list.text = .ok list := by
  intro t list
  have hread : RangeList.read t = .ok list := by decide +kernel
  exact ⟨hread, by decide, ((read_written t).2 list hread).2.1⟩

end RangeList

end ThresholdCheck
