import ThresholdCheck.StatusLine
import ThresholdCheck.Proofs.Decimal.ValueText
import ThresholdCheck.Proofs.Severity
import ThresholdCheck.Proofs.Text.Segments

/-!
# Reading a status line

A monitoring system gets a check's verdict, its message and its measurements as one line, and takes
them apart again. The separators of the line are characters that may stand in texts as well, so this
takes some care of the one who writes the line: no bar in the message, and in the items no quote, no
semicolon, and no unit that goes on where a number ends. Then nothing is lost. Labels may hold
anything but a quote.

The line is cut from the left, one separator at a time, so each text only has to be free of the
separator that ends it. Items are told from each other by their quotes alone: neither a label nor
the last slot of an item need be free of blanks.

## Main definitions

* `PerfData.slots` — the texts of the slots, in order
* `PerfData.Delimited` — items that can be told from what surrounds them
* `PerfData.ShownAlike` — items that differ in nothing that is shown

## Main results

* `PerfData.text_append_inj` — one item and what follows it
* `StatusLine.render_inj` — the whole line
-/

namespace ThresholdCheck

namespace PerfData

/-- The texts of the slots, those that are not set being empty. -/
def slots (item : PerfData) : List Text :=
  [item.warning.getD [], item.critical.getD [], item.minimum.getD [], item.maximum.getD []]

/-- Items whose texts are free of the characters that end them. -/
structure Delimited (item : PerfData) : Prop where
  label : '\'' ∉ item.label
  uom : '\'' ∉ item.uom ∧ ';' ∉ item.uom
  /-- The unit does not go on where the value ends. -/
  first : ∀ c ∈ item.uom.head?, ¬ c.isDigit ∧ c ≠ '.'
  slots : ∀ slot ∈ item.slots, '\'' ∉ slot ∧ ';' ∉ slot

/-- Only the first character of the unit is looked at. -/
theorem delimited_iff {item : PerfData} :
    item.Delimited ↔ '\'' ∉ item.label ∧ ('\'' ∉ item.uom ∧ ';' ∉ item.uom) ∧
      (item.uom.head?.all fun c => !c.isDigit && c != '.') ∧
        ∀ slot ∈ item.slots, '\'' ∉ slot ∧ ';' ∉ slot := by
  have hfirst : (∀ c ∈ item.uom.head?, ¬ c.isDigit ∧ c ≠ '.') ↔
      item.uom.head?.all fun c => !c.isDigit && c != '.' := by
    cases item.uom.head? <;> simp
  rw [← hfirst]
  exact ⟨fun h => ⟨h.label, h.uom, h.first, h.slots⟩,
    fun ⟨hlabel, huom, hfirst, hslots⟩ => ⟨hlabel, huom, hfirst, hslots⟩⟩

instance (item : PerfData) : Decidable item.Delimited := decidable_of_iff _ delimited_iff.symm

/-- Items that are equal as far as they are shown. -/
structure ShownAlike (item item' : PerfData) : Prop where
  label : item.label = item'.label
  value : item.value.valueText = item'.value.valueText
  uom : item.uom = item'.uom
  slots : item.slots = item'.slots

variable {item item' : PerfData}

/-! ### One item -/

/-- An item's text, one separator after the other. -/
theorem text_eq (item : PerfData) : item.text =
    '\'' :: (item.label ++ '\'' :: '=' :: (item.value.valueText ++ item.uom ++ ';' ::
      (item.warning.getD [] ++ ';' :: (item.critical.getD [] ++ ';' ::
        (item.minimum.getD [] ++ ';' :: item.maximum.getD []))))) := by
  simp [text, slotText]

theorem ShownAlike.text_eq (h : ShownAlike item item') : item.text = item'.text := by
  obtain ⟨hlabel, hvalue, huom, hslots⟩ := h
  simp only [PerfData.slots, List.cons.injEq, and_true] at hslots
  obtain ⟨hwarning, hcritical, hminimum, hmaximum⟩ := hslots
  rw [PerfData.text_eq, PerfData.text_eq, hlabel, hvalue, huom, hwarning, hcritical, hminimum,
    hmaximum]

/-- No semicolon stands before the first slot. -/
theorem Delimited.not_mem_value_uom (h : item.Delimited) :
    ';' ∉ item.value.valueText ++ item.uom := by
  rw [List.mem_append, not_or]
  refine ⟨fun hmem => ?_, h.uom.2⟩
  exact absurd ((Binary64.isValueText_valueText item.value).isMark_of_mem hmem) (by decide)

/-- What can follow an item: nothing, or a blank and the quote of the next item. -/
def Follows (rest : Text) : Prop := rest = [] ∨ ∃ more, rest = ' ' :: '\'' :: more

/-- The last slot ends where the line does, or else before the blank before the next quote. -/
theorem Follows.append_inj {rest rest' slot slot' : Text} (h : Follows rest) (h' : Follows rest')
    (hslot : '\'' ∉ slot) (hslot' : '\'' ∉ slot') (heq : slot ++ rest = slot' ++ rest') :
    slot = slot' ∧ rest = rest' := by
  have hblank : ∀ {t : Text}, '\'' ∉ t → '\'' ∉ t ++ [' '] := by simp
  obtain rfl | ⟨more, rfl⟩ := h <;> obtain rfl | ⟨more', rfl⟩ := h'
  · rw [List.append_nil, List.append_nil] at heq
    exact ⟨heq, rfl⟩
  · rw [List.append_nil] at heq
    exact absurd (by simp [heq]) hslot
  · rw [List.append_nil] at heq
    exact absurd (by simp [← heq]) hslot'
  · rw [List.append_cons, List.append_cons slot',
      Text.append_sep_inj (hblank hslot) (hblank hslot')] at heq
    obtain ⟨hblanks, rfl⟩ := heq
    exact ⟨List.append_cancel_right hblanks, rfl⟩

/-- An item is told from what follows it. -/
theorem text_append_inj (h : item.Delimited) (h' : item'.Delimited) {rest rest' : Text}
    (hrest : Follows rest) (hrest' : Follows rest')
    (heq : item.text ++ rest = item'.text ++ rest') :
    ShownAlike item item' ∧ rest = rest' := by
  have hslots := h.slots
  have hslots' := h'.slots
  simp only [slots, List.mem_cons, List.not_mem_nil, or_false, forall_eq_or_imp, forall_eq]
    at hslots hslots'
  obtain ⟨⟨-, hwarning⟩, ⟨-, hcritical⟩, ⟨-, hminimum⟩, ⟨hmaximum, -⟩⟩ := hslots
  obtain ⟨⟨-, hwarning'⟩, ⟨-, hcritical'⟩, ⟨-, hminimum'⟩, ⟨hmaximum', -⟩⟩ := hslots'
  rw [text_eq, text_eq] at heq
  simp only [List.cons_append, List.append_assoc, List.cons.injEq, true_and] at heq
  obtain ⟨hlabel, hafter⟩ := (Text.append_sep_inj h.label h'.label).1 heq
  rw [List.cons.injEq, ← List.append_assoc, ← List.append_assoc] at hafter
  obtain ⟨hvalue, hafter⟩ :=
    (Text.append_sep_inj h.not_mem_value_uom h'.not_mem_value_uom).1 hafter.2
  obtain ⟨hvalue, huom⟩ := (Binary64.isValueText_valueText item.value).append_inj
    (Binary64.isValueText_valueText item'.value) h.first h'.first hvalue
  obtain ⟨hw, hafter⟩ := (Text.append_sep_inj hwarning hwarning').1 hafter
  obtain ⟨hc, hafter⟩ := (Text.append_sep_inj hcritical hcritical').1 hafter
  obtain ⟨hmin, hafter⟩ := (Text.append_sep_inj hminimum hminimum').1 hafter
  obtain ⟨hmax, hrests⟩ := hrest.append_inj hrest' hmaximum hmaximum' hafter
  exact ⟨⟨hlabel, hvalue, huom, by rw [slots, slots, hw, hc, hmin, hmax]⟩, hrests⟩

/-! ### A list of items -/

/-- Items with a blank before each. -/
def spaced (items : List PerfData) : Text := items.flatMap fun item => ' ' :: item.text

theorem follows_spaced (items : List PerfData) : Follows (spaced items) := by
  cases items with
  | nil => exact .inl rfl
  | cons item items =>
    rw [spaced, List.flatMap_cons, text_eq]
    exact .inr ⟨_, rfl⟩

theorem spaced_inj {items items' : List PerfData} (h : ∀ item ∈ items, item.Delimited)
    (h' : ∀ item ∈ items', item.Delimited) :
    spaced items = spaced items' ↔ List.Forall₂ ShownAlike items items' := by
  induction items generalizing items' with
  | nil => cases items' <;> simp [spaced]
  | cons item items ih =>
    cases items' with
    | nil => simp [spaced]
    | cons item' items' =>
      rw [List.forall_mem_cons] at h h'
      rw [List.forall₂_cons, ← ih h.2 h'.2]
      constructor
      · intro heq
        exact text_append_inj h.1 h'.1 (follows_spaced items) (follows_spaced items')
          (List.cons.inj heq).2
      · rintro ⟨halike, heq⟩
        rw [spaced, spaced, List.flatMap_cons, List.flatMap_cons, halike.text_eq]
        exact congrArg _ heq

end PerfData

/-! ### The whole line -/

namespace StatusLine

theorem render_of_ne_nil (severity : Severity) (message : Text) {items : List PerfData}
    (h : items ≠ []) :
    render severity message items =
      head severity message ++ [' '] ++ '|' :: PerfData.spaced items := by
  have hspaced : PerfData.spaced items = ' ' :: Text.joinWith [' '] (items.map PerfData.text) := by
    rw [Text.cons_joinWith (by simpa using h), List.flatMap_map, PerfData.spaced]
  rw [render, if_neg (by simpa using h), hspaced]
  simp

theorem head_inj {severity severity' : Severity} {message message' : Text} :
    head severity message = head severity' message' ↔
      severity = severity' ∧ message = message' := by
  have hcut : ∀ (severity : Severity) (message : Text),
      head severity message = severity.label ++ ' ' :: '-' :: ' ' :: message := by
    simp [head]
  rw [hcut, hcut, Text.append_sep_inj severity.blank_not_mem_label severity'.blank_not_mem_label,
    Severity.label_inj]
  simp

theorem not_mem_head {message : Text} (h : '|' ∉ message) (severity : Severity) :
    '|' ∉ head severity message := by
  have hfree : '|' ∉ severity.label ++ " - ".toList := by cases severity <;> decide
  exact fun hmem => (List.mem_append.1 hmem).elim hfree h

/-- The bar tells whether there are items. -/
theorem mem_render_iff {message : Text} (h : '|' ∉ message) (severity : Severity)
    (items : List PerfData) : '|' ∈ render severity message items ↔ items ≠ [] := by
  by_cases hnil : items = []
  · subst hnil
    simpa [render_nil] using not_mem_head h severity
  · simp [render_of_ne_nil severity message hnil, hnil]

/-- **A status line is read in one way**: severity, message and everything that is shown of the
items can be told from it. -/
theorem render_inj {severity severity' : Severity} {message message' : Text}
    {items items' : List PerfData} (hmessage : '|' ∉ message) (hmessage' : '|' ∉ message')
    (hitems : ∀ item ∈ items, item.Delimited) (hitems' : ∀ item ∈ items', item.Delimited) :
    render severity message items = render severity' message' items' ↔
      severity = severity' ∧ message = message' ∧
        List.Forall₂ PerfData.ShownAlike items items' := by
  constructor
  · intro heq
    have hbar := mem_render_iff hmessage severity items
    rw [heq, mem_render_iff hmessage' severity' items'] at hbar
    rw [← and_assoc, ← head_inj]
    by_cases hnil : items = []
    · obtain rfl : items' = [] := Classical.not_not.1 (mt hbar.1 (not_not_intro hnil))
      subst hnil
      exact ⟨heq, .nil⟩
    · have hcut : ∀ {message : Text}, '|' ∉ message → ∀ severity : Severity,
          '|' ∉ head severity message ++ [' '] := by
        intro message h severity
        simpa using not_mem_head h severity
      rw [render_of_ne_nil _ _ hnil, render_of_ne_nil _ _ (hbar.2 hnil),
        Text.append_sep_inj (hcut hmessage severity) (hcut hmessage' severity'),
        List.append_cancel_right_eq, PerfData.spaced_inj hitems hitems'] at heq
      exact heq
  · rintro ⟨rfl, rfl, halike⟩
    have htexts : items.map PerfData.text = items'.map PerfData.text := by
      rw [← List.forall₂_eq_eq_eq, List.forall₂_map_left_iff, List.forall₂_map_right_iff]
      exact halike.imp fun _ _ h => h.text_eq
    have hempty : items.isEmpty = items'.isEmpty := by cases halike <;> rfl
    rw [render, render, htexts, hempty]

/-- A label may look like the end of its item and the beginning of another. The two zeros are shown
alike, and so are a slot that is not set and an empty one; the same text in another slot is not, and
neither are the same items in another order. -/
theorem render_inj_signed_zeros :
    let message := "disk - full;".toList
    let item : PerfData :=
      ⟨"a=0;;;; b | c".toList, .zero false, "%".toList, some "~:4".toList, none, none, none⟩
    let alike : PerfData :=
      ⟨"a=0;;;; b | c".toList, .zero true, "%".toList, some "~:4".toList, none, some [], none⟩
    let other : PerfData :=
      ⟨"a=0;;;; b | c".toList, .zero false, "%".toList, none, some "~:4".toList, none, none⟩
    let last : PerfData := ⟨[], .zero true, " ".toList, none, none, none, some "9 | ".toList⟩
    ('|' ∉ message ∧ item.Delimited ∧ alike.Delimited ∧ other.Delimited ∧ last.Delimited) ∧
      render .warning message [item, last] = render .warning message [alike, last] ∧
      render .warning message [item, last] ≠ render .warning message [other, last] ∧
      render .warning message [item, last] ≠ render .warning message [last, item] := by
  intro message item alike other last
  have hmessage : '|' ∉ message := by decide
  have hitem : ∀ i ∈ [item, last], i.Delimited := by decide
  have halike : ∀ i ∈ [alike, last], i.Delimited := by decide
  have hother : ∀ i ∈ [other, last], i.Delimited := by decide
  have hswapped : ∀ i ∈ [last, item], i.Delimited := by decide
  refine ⟨⟨hmessage, by decide, by decide, by decide, by decide⟩, ?_, fun heq => ?_, fun heq => ?_⟩
  · refine (render_inj hmessage hmessage hitem halike).2
      ⟨rfl, rfl, .cons ⟨rfl, ?_, rfl, rfl⟩ (.cons ⟨rfl, rfl, rfl, rfl⟩ .nil)⟩
    exact (Binary64.valueText_zero false).trans (Binary64.valueText_zero true).symm
  · obtain ⟨-, -, hshown⟩ := (render_inj hmessage hmessage hitem hother).1 heq
    exact absurd (List.forall₂_cons.1 hshown).1.slots (by decide)
  · obtain ⟨-, -, hshown⟩ := (render_inj hmessage hmessage hitem hswapped).1 heq
    exact absurd (List.forall₂_cons.1 hshown).1.label (by decide)

end StatusLine

end ThresholdCheck
