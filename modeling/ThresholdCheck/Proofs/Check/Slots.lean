import ThresholdCheck.Proofs.Check.Stages
import ThresholdCheck.Proofs.Range.Alphabet
import ThresholdCheck.Proofs.Range.Reported
import ThresholdCheck.Proofs.StatusLine

/-!
# What thresholds add to a status line

The slots of a line show texts that the user gave as options. If these could hold a separator, the
options would decide where the line is cut; but all that gets into a slot is the definition of an
accepted range, and definitions are inert. So the thresholds of a check add inert characters to its
line and nothing else: the other characters stand there in the same order as if all slots were
empty. This is said of the whole line at once, by leaving the inert characters out of it.

The severity in front depends on the thresholds, too. Its name is inert as well.

## Main definitions

* `Text.skeleton` — a text without its inert characters
* `PerfData.AddsInert` — an item before and after thresholds were added to it
* `Config.plainLine` — the line of a check with empty threshold slots

## Main results

* `PerfData.addsInert_evaluate` — what evaluating an item adds to it is inert
* `StatusLine.skeleton_render` — the skeleton of a line, item by item
* `Config.skeleton_run` — the thresholds leave no trace in the skeleton
* `Config.definitions_inert` — all of it
-/

namespace ThresholdCheck

namespace Text

/-- What is left of a text without its inert characters. -/
def skeleton (t : Text) : Text := t.filter fun c => !isInert c

theorem skeleton_append (s t : Text) : skeleton (s ++ t) = skeleton s ++ skeleton t :=
  List.filter_append ..

theorem skeleton_cons_of_not_isInert {c : Char} (h : isInert c = false) (t : Text) :
    skeleton (c :: t) = c :: skeleton t :=
  List.filter_cons_of_pos (by simp [h])

theorem skeleton_eq_nil_iff {t : Text} : skeleton t = [] ↔ ∀ c ∈ t, isInert c = true := by
  simp [skeleton, List.filter_eq_nil_iff]

theorem Inert.skeleton_eq {t : Text} (h : t.Inert) : skeleton t = [] :=
  skeleton_eq_nil_iff.2 h.isInert_of_mem

end Text

/-! ### Items -/

/-- A definition that is reported for a metric is inert. -/
theorem RangeList.inert_of_slot {t definition : Text} {list : RangeList} {metric : Text}
    (h : RangeList.read t = .ok list) (hslot : list.Slot metric (some definition)) :
    definition.Inert := by
  obtain ⟨range, -, hread⟩ := exists_read_of_slot h hslot rfl
  exact (AlertRange.Accepted.read hread).inert

namespace PerfData

/-- The item with empty threshold slots. -/
def withoutThresholds (item : PerfData) : PerfData :=
  { item with warning := none, critical := none }

/-- A threshold that was not there before is inert, and nothing else has changed. -/
structure AddsInert (before after : PerfData) : Prop where
  warning : ∀ t, after.warning = some t → before.warning = some t ∨ t.Inert
  critical : ∀ t, after.critical = some t → before.critical = some t ∨ t.Inert
  others : after.withoutThresholds = before.withoutThresholds

theorem skeleton_slotText {slot : Option Text} (h : ∀ t, slot = some t → t.Inert) :
    Text.skeleton (slotText slot) = [';'] := by
  rw [slotText, Text.skeleton_cons_of_not_isInert (by decide)]
  cases slot with
  | none => rfl
  | some t => exact congrArg _ (h t rfl).skeleton_eq

/-- Inert thresholds leave no trace in the skeleton of an item. -/
theorem skeleton_text {item : PerfData} (hwarning : ∀ t, item.warning = some t → t.Inert)
    (hcritical : ∀ t, item.critical = some t → t.Inert) :
    Text.skeleton item.text = Text.skeleton item.withoutThresholds.text := by
  have hnone : Text.skeleton (slotText none) = [';'] := skeleton_slotText nofun
  simp only [text, withoutThresholds, Text.skeleton_append, skeleton_slotText hwarning,
    skeleton_slotText hcritical, hnone]

/-- Items with the same skeletons have them on a line, too. -/
theorem skeleton_spaced {items items' : List PerfData}
    (h : List.Forall₂ (fun item item' => Text.skeleton item.text = Text.skeleton item'.text)
      items items') :
    Text.skeleton (spaced items) = Text.skeleton (spaced items') := by
  induction h with
  | nil => rfl
  | @cons item item' items items' hitem _ ih =>
    have hcons : ∀ (item : PerfData) (items : List PerfData),
        Text.skeleton (spaced (item :: items)) =
          ' ' :: (Text.skeleton item.text ++ Text.skeleton (spaced items)) := by
      intro item items
      rw [spaced, List.flatMap_cons, Text.skeleton_append,
        Text.skeleton_cons_of_not_isInert (by decide)]
      rfl
    rw [hcons, hcons, hitem, ih]

variable {w c : Text} {warning critical : RangeList}

/-- Evaluating an item adds definitions of accepted ranges to it. -/
theorem addsInert_evaluate (hwarning : RangeList.read w = .ok warning)
    (hcritical : RangeList.read c = .ok critical) (item : PerfData) :
    item.AddsInert (item.evaluate warning critical).2 := by
  have hslot : ∀ {t : Text} {list : RangeList} {preset : Option Text},
      RangeList.read t = .ok list → ∀ definition,
        ((list.select item.label).map AlertRange.definition <|> preset) = some definition →
          preset = some definition ∨ definition.Inert := by
    intro t list preset hread definition hdefinition
    cases hselected : (list.select item.label).map AlertRange.definition with
    | none =>
      rw [hselected] at hdefinition
      exact .inl hdefinition
    | some selected =>
      rw [hselected] at hdefinition
      cases hdefinition
      exact .inr (RangeList.inert_of_slot hread (hselected ▸ list.slot_select item.label))
  exact ⟨hslot hwarning, hslot hcritical, rfl⟩

end PerfData

/-! ### Lines -/

namespace StatusLine

/-- The name of a severity is inert, and so is the hyphen behind it. -/
theorem skeleton_head (severity : Severity) (message : Text) :
    Text.skeleton (head severity message) = [' ', ' '] ++ Text.skeleton message := by
  have hlabel : Text.skeleton severity.label = [] := by cases severity <;> decide
  rw [head, Text.skeleton_append, Text.skeleton_append, hlabel]
  rfl

theorem skeleton_render_of_ne_nil (severity : Severity) (message : Text) {items : List PerfData}
    (h : items ≠ []) :
    Text.skeleton (render severity message items) =
      [' ', ' '] ++ Text.skeleton message ++ [' ', '|'] ++
        Text.skeleton (PerfData.spaced items) := by
  rw [render_of_ne_nil _ _ h, Text.skeleton_append, Text.skeleton_append, skeleton_head,
    Text.skeleton_cons_of_not_isInert (by decide), Text.skeleton_cons_of_not_isInert (by decide)]
  simp [Text.skeleton]

/-- The severity leaves no trace in the skeleton of a line, and the items leave their own. -/
theorem skeleton_render (severity severity' : Severity) (message : Text)
    {items items' : List PerfData}
    (h : List.Forall₂ (fun item item' => Text.skeleton item.text = Text.skeleton item'.text)
      items items') :
    Text.skeleton (render severity message items) =
      Text.skeleton (render severity' message items') := by
  have hspaced := PerfData.skeleton_spaced h
  cases h with
  | nil => rw [render_nil, render_nil, skeleton_head, skeleton_head]
  | cons _ _ =>
    rw [skeleton_render_of_ne_nil _ _ (List.cons_ne_nil _ _),
      skeleton_render_of_ne_nil _ _ (List.cons_ne_nil _ _), hspaced]

end StatusLine

namespace Config

/-- The line of a check whose threshold slots are all empty and whose severity is ok. -/
def plainLine (config : Config) : Text :=
  StatusLine.render .ok config.message (config.measurements.map config.item)

variable {settings : Settings} {config : Config}

/-- The item of a measurement has the skeleton that it has before it is evaluated. -/
theorem skeleton_evaluate (h : settings.IsConfig config) (measurement : Measurement) :
    Text.skeleton (config.evaluate measurement).2.text =
      Text.skeleton (config.item measurement).text := by
  obtain ⟨hwarning, hcritical, hothers⟩ :=
    (config.item measurement).addsInert_evaluate h.warning h.critical
  -- no slot is set before
  have hinert : ∀ {t : Text}, none = some t ∨ t.Inert → t.Inert := fun ht => ht.resolve_left nofun
  have htext := PerfData.skeleton_text (fun t ht => hinert (hwarning t ht))
    (fun t ht => hinert (hcritical t ht))
  rw [hothers] at htext
  exact htext

/-- The thresholds leave no trace in the skeleton of a line. -/
theorem skeleton_run (h : settings.IsConfig config) :
    Text.skeleton config.run.line = Text.skeleton config.plainLine := by
  rw [run, tally_eq, plainLine]
  refine StatusLine.skeleton_render _ _ _ ?_
  rw [List.forall₂_map_left_iff, List.forall₂_map_right_iff, List.forall₂_same]
  exact fun measurement _ => skeleton_evaluate h measurement

/-- **Accepted definitions are inert text.** Whichever way a range came in, its definition consists
of ASCII letters and digits, signs, points, tildes and colons, with an at sign in front at most. It
is written in JSON as it is, and no separator or control character is among its characters. So
evaluating an item puts nothing but inert texts into its threshold slots, and the thresholds of a
check, whatever texts they were read from, leave no trace among the other characters of its line:
these are the same, in the same order, as if no threshold had been given. -/
theorem definitions_inert :
    (∀ range : AlertRange, range.Accepted → range.definition.Inert ∧
      Json.quoted range.definition = '"' :: (range.definition ++ ['"'])) ∧
    (∀ c : Char, c ∈ Text.separators ∨ c.toNat < 0x20 ∨ 0x7f ≤ c.toNat →
      Text.isInert c = false) ∧
    (∀ (w c : Text) (warning critical : RangeList), RangeList.read w = .ok warning →
      RangeList.read c = .ok critical →
        ∀ item : PerfData, item.AddsInert (item.evaluate warning critical).2) ∧
    ∀ (settings : Settings) (config : Config), settings.IsConfig config →
      Text.skeleton config.run.line = Text.skeleton config.plainLine :=
  ⟨fun _ h => ⟨h.inert, Json.quoted_of_inert h.inert⟩, fun _ => Text.isInert_eq_false,
    fun _ _ _ _ hwarning hcritical => PerfData.addsInert_evaluate hwarning hcritical,
    fun _ _ => skeleton_run⟩

/-- The metric of a range may look like the end of its item; its definition may not. -/
theorem definitions_inert_odd_metric :
    let settings : Settings := ⟨"disk'=1|,@-0::+Inf".toList, [], "%".toList, none, none,
      "a;b".toList, false, ["disk'=1|=inf".toList]⟩
    let config : Config := ⟨⟨[⟨"disk'=1|".toList, "@-0::+Inf".toList,
        ⟨.inside, .zero true, .posInf⟩⟩]⟩, ⟨[]⟩, [⟨"disk'=1|".toList, .posInf⟩], "%".toList, none,
      none, "a;b".toList, false⟩
    settings.IsConfig config ∧ Text.Inert "@-0::+Inf".toList ∧
      config.run.line = "WARNING - a;b | 'disk'=1|'=+Inf%;@-0::+Inf;;;".toList ∧
      Text.skeleton config.run.line = Text.skeleton "OK - a;b | 'disk'=1|'=+Inf%;;;;".toList := by
  intro settings config
  obtain ⟨hinert, -, -, hline⟩ := definitions_inert
  have hread : Config.read settings = .ok config := by decide +kernel
  have hconfig := (read_eq_ok_iff.1 hread).1
  have hrange : AlertRange.read "disk'=1|,@-0::+Inf".toList =
      .ok ⟨"disk'=1|".toList, "@-0::+Inf".toList, ⟨.inside, .zero true, .posInf⟩⟩ := by
    decide +kernel
  refine ⟨hconfig, (hinert _ (.read hrange)).1, by decide +kernel, ?_⟩
  have hplain : config.plainLine = "OK - a;b | 'disk'=1|'=+Inf%;;;;".toList := by decide +kernel
  rw [hline settings config hconfig, hplain]

end Config

end ThresholdCheck
