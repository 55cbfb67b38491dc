import ThresholdCheck.Proofs.Check.Stages
import ThresholdCheck.Proofs.CommandLine.Given
import ThresholdCheck.Proofs.Decimal.Literal
import ThresholdCheck.Proofs.Range.Alphabet
import ThresholdCheck.Proofs.Text.Trim

/-!
# Negative numbers on the command line

A measurement may begin with a hyphen, as options do. The command line tells the two apart by a
shape of its own, and this shape is narrower than that of the numbers a measurement can be: it has
no point in front, no sign in the exponent, no names, and no white space behind it. A number of this
shape is checked like any other. The rest of the negative numbers are taken for short options; no
short option begins with a character that a number can have behind its sign, so that each of them
ends the reading as an unknown argument.

## Main definitions

* `Text.IsUnsignedDecimal` — the shape, behind the hyphen
* `Text.IsOperand` — the texts that are taken for a measurement

## Main results

* `Word.isNumericText_iff` — which words have the shape
* `Arguments.read_operand`, `Reading.step_unknown` — what a measurement is read as
* `Numeral.opens_of_read?_neg` — what follows the hyphen of a number
* `Reply.of_lone_value` — the answer to one option and one measurement
-/

namespace ThresholdCheck

/-! ### The shape -/

namespace Text

/-- An exponent without a sign, or nothing at all. -/
def IsUnsignedExponent (t : Text) : Prop :=
  t = [] ∨ ∃ mark digits, (mark = 'e' ∨ mark = 'E') ∧ digits ≠ [] ∧ (∀ c ∈ digits, c.isDigit) ∧
    t = mark :: digits

/-- Digits, a point with more digits or none behind it, an exponent without a sign. Only the digits
in front have to be there. -/
def IsUnsignedDecimal (t : Text) : Prop :=
  ∃ whole fraction exponent, whole ≠ [] ∧ (∀ c ∈ whole, c.isDigit) ∧
    Decimal.IsFraction fraction ∧ IsUnsignedExponent exponent ∧ t = whole ++ (fraction ++ exponent)

/-- A text that the command line takes for a measurement: it does not begin with a hyphen, or it has
the shape behind it. -/
def IsOperand (t : Text) : Prop := ∀ name, t = '-' :: name → IsUnsignedDecimal name

theorem IsUnsignedExponent.not_isDigit_head {t : Text} (h : IsUnsignedExponent t) :
    ∀ c ∈ t.head?, ¬ c.isDigit := by
  obtain rfl | ⟨mark, digits, hmark, -, -, rfl⟩ := h
  · simp
  · rcases hmark with rfl | rfl <;> simp

end Text

namespace Word

theorem isExponent_iff {t : Text} : isExponent t = true ↔ Text.IsUnsignedExponent t := by
  cases t with
  | nil => simp [isExponent, Text.IsUnsignedExponent]
  | cons c rest =>
    simp only [isExponent, Bool.and_eq_true, Bool.or_eq_true, decide_eq_true_eq,
      Bool.not_eq_true', List.isEmpty_eq_false_iff, List.all_eq_true]
    constructor
    · rintro ⟨⟨hmark, hne⟩, hdigits⟩
      exact .inr ⟨c, rest, hmark, hne, hdigits, rfl⟩
    · rintro (hnil | ⟨mark, digits, hmark, hne, hdigits, heq⟩)
      · cases hnil
      · cases heq
        exact ⟨⟨hmark, hne⟩, hdigits⟩

theorem dropFraction_append {fraction rest : Text} (h : Decimal.IsFraction fraction)
    (hdigit : ∀ c ∈ rest.head?, ¬ c.isDigit) (hpoint : ∀ c ∈ rest.head?, c ≠ '.') :
    dropFraction (fraction ++ rest) = rest := by
  obtain rfl | ⟨digits, rfl, hdigits⟩ := h
  · cases rest with
    | nil => rfl
    | cons c rest =>
      rw [List.nil_append]
      unfold dropFraction
      split
      · rename_i heq
        exact absurd (List.cons.inj heq).1 (hpoint c rfl)
      · rfl
  · exact congrArg Prod.snd (Numeral.readDigits_append_of_not_isDigit hdigits hdigit)

theorem exists_fraction_append (t : Text) :
    ∃ fraction, Decimal.IsFraction fraction ∧ t = fraction ++ dropFraction t := by
  unfold dropFraction
  split
  · rename_i rest
    exact ⟨'.' :: rest.takeWhile Char.isDigit, .inr ⟨_, rfl, fun _ => List.mem_takeWhile_imp⟩,
      by rw [List.cons_append, List.takeWhile_append_dropWhile]⟩
  · exact ⟨[], .inl rfl, rfl⟩

/-- The words that look like a number are those of the shape. -/
theorem isNumericText_iff {t : Text} : isNumericText t = true ↔ t.IsUnsignedDecimal := by
  rw [isNumericText, Bool.and_eq_true, isExponent_iff]
  constructor
  · rintro ⟨hhead, hexponent⟩
    obtain ⟨fraction, hfraction, hrest⟩ := exists_fraction_append (t.dropWhile Char.isDigit)
    refine ⟨t.takeWhile Char.isDigit, fraction, _, ?_, fun _ => List.mem_takeWhile_imp, hfraction,
      hexponent, ?_⟩
    · cases t with
      | nil => simp at hhead
      | cons c t =>
        have hc : c.isDigit := by simpa using hhead
        simp [hc]
    · rw [← hrest, List.takeWhile_append_dropWhile]
  · rintro ⟨whole, fraction, exponent, hne, hwhole, hfraction, hexponent, rfl⟩
    have hdigit := hexponent.not_isDigit_head
    have hpoint : ∀ c ∈ exponent.head?, c ≠ '.' := by
      obtain rfl | ⟨mark, digits, hmark, -, -, rfl⟩ := hexponent
      · simp
      · rcases hmark with rfl | rfl <;> simp
    have hdrop : (whole ++ (fraction ++ exponent)).dropWhile Char.isDigit = fraction ++ exponent :=
      congrArg Prod.snd (Numeral.readDigits_append_of_not_isDigit hwhole
        (hfraction.not_isDigit_head hdigit))
    refine ⟨?_, ?_⟩
    · obtain ⟨c, digits, rfl⟩ := List.exists_cons_of_ne_nil hne
      simpa using hwhole c (List.mem_cons_self ..)
    · rwa [hdrop, dropFraction_append hfraction hdigit hpoint]

end Word

/-! ### Reading a measurement -/

/-- A measurement of the shape, or without a hyphen, is taken for one. -/
theorem Arguments.read_operand {t : Text} (ht : t.IsOperand) :
    Arguments.read [.ofText t] = .ok ⟨[], false, [t]⟩ := by
  have hstep : Reading.start.step (.ofText t) = Reading.start.place (.ofText t) := by
    by_cases hhyphen : ∃ name, t = '-' :: name
    · obtain ⟨name, rfl⟩ := hhyphen
      have hname := Word.isNumericText_iff.2 (ht name rfl)
      have hshort : ∀ more, name ≠ '-' :: more := by
        rintro more rfl
        simp [Word.isNumericText] at hname
      refine (Reading.step_short rfl hshort []).trans (if_pos ?_)
      rw [Bool.or_eq_true]
      exact .inr hname
    · exact Reading.step_plain rfl fun name hname => hhyphen ⟨name, hname⟩
  have hend : Word.ofText t ≠ Reading.terminator := by
    intro h
    have hdashes : t = ['-', '-'] := congrArg Word.text h
    have hname := Word.isNumericText_iff.2 (ht ['-'] hdashes)
    simp [Word.isNumericText] at hname
  have hwords : Reading.start.words [.ofText t] = .ok ⟨.empty, .measurements [.ofText t]⟩ := by
    rw [Reading.words, decide_eq_false hend, Bool.false_and, if_neg Bool.false_ne_true, hstep]
    rfl
  exact Except.bind_eq_ok_iff.2 ⟨_, hwords, rfl⟩

/-- A word with a hyphen that is neither of the shape nor an option ends the reading. -/
theorem Reading.step_unknown {reading : Reading} (h : reading.acceptsHyphen = false) {c : Char}
    {rest : Text} (hc : c ≠ '-') (hshape : ¬ Text.IsUnsignedDecimal (c :: rest))
    (hoption : Entry.ofShort? c = none) :
    reading.step (.ofText ('-' :: c :: rest)) = .error (.error (.unknownArgument ['-', c])) := by
  have hshort : ∀ more, c :: rest ≠ '-' :: more := fun more heq => hc (List.cons.inj heq).1
  have hvalue : ((⟨c :: rest, []⟩ : Word).isEmpty || (⟨c :: rest, []⟩ : Word).isNumeric) =
      Word.isNumericText (c :: rest) := rfl
  refine (step_short h hshort []).trans ?_
  rw [hvalue, if_neg (mt Word.isNumericText_iff.1 hshape), short]
  simp only [hoption, unknown]

/-! ### Negative numbers -/

/-- The characters that a number can begin with, behind its sign. -/
def Numeral.Opens (c : Char) : Prop := c.isDigit ∨ c = '.' ∨ c.toLower = 'i' ∨ c.toLower = 'n'

namespace Numeral

theorem opens_of_readDecimal? {negative : Bool} {t : Text} {numeral : Numeral}
    (h : readDecimal? negative t = some numeral) : ∃ c rest, t = c :: rest ∧ Opens c := by
  obtain ⟨_, _, _, _, hparts, -⟩ := readDecimal?_eq_some_iff.1 h
  obtain ⟨c, rest, rfl, hc⟩ := hparts.exists_head
  exact ⟨c, rest, rfl, hc.imp_right .inl⟩

theorem opens_of_name {body name : Text} (h : body.map Char.toLower = name) {first : Char}
    (hname : name.head? = some first) (hfirst : first = 'i' ∨ first = 'n') :
    ∃ c rest, body = c :: rest ∧ Opens c := by
  cases body with
  | nil =>
    subst h
    cases hname
  | cons c rest =>
    subst h
    rw [List.map_cons, List.head?_cons, Option.some.injEq] at hname
    refine ⟨c, rest, rfl, ?_⟩
    rcases hfirst with rfl | rfl
    · exact .inr (.inr (.inl hname))
    · exact .inr (.inr (.inr hname))

/-- Something follows the sign of a negative number: a digit, a point, or the first letter of a
name. -/
theorem opens_of_read?_neg {body : Text} {numeral : Numeral}
    (h : read? ('-' :: body) = some numeral) : ∃ c rest, body = c :: rest ∧ Opens c := by
  simp only [read?, readSign] at h
  split at h
  · rename_i hname
    rcases hname with hname | hname
    · exact opens_of_name hname rfl (.inl rfl)
    · exact opens_of_name hname rfl (.inl rfl)
  · split at h
    · rename_i hname
      exact opens_of_name hname rfl (.inr rfl)
    · exact opens_of_readDecimal? h

end Numeral

/-- The short names of all options. -/
theorem Entry.mem_of_shortName? {entry : Entry} {c : Char} (h : entry.shortName? = some c) :
    c ∈ ['w', 'c', 'u', 'm', 'h', 'V'] := by
  cases entry with
  | setting s => cases s <;> cases h <;> decide
  | switch s => cases s <;> cases h <;> decide

/-- None of the characters that a number goes on with is a hyphen or the short name of an option. -/
theorem Numeral.Opens.ofShort?_eq_none {c : Char} (h : Opens c) :
    c ≠ '-' ∧ Entry.ofShort? c = none := by
  constructor
  · rintro rfl
    simp [Opens] at h
  · rw [Entry.ofShort?, List.find?_eq_none]
    intro entry _ hname
    have hother : ∀ d ∈ ['w', 'c', 'u', 'm', 'h', 'V'], ¬ Opens d := by simp [Opens]
    exact hother c (Entry.mem_of_shortName? (of_decide_eq_true hname)) h

/-- A measurement without a label that begins with a hyphen goes on as a number does. -/
theorem Measurement.opens_of_read? {name : Text} {measurement : Measurement}
    (hfree : '=' ∉ '-' :: name) (h : Measurement.read? ('-' :: name) = some measurement) :
    ∃ c rest, name = c :: rest ∧ Numeral.Opens c ∧ Numeral.isMark c := by
  simp only [Measurement.read?, Measurement.cut_of_not_mem hfree, Option.map_eq_some_iff,
    Binary64.read?] at h
  obtain ⟨value, ⟨numeral, hread, -⟩, -⟩ := h
  obtain ⟨before, after, hbefore, -, hpads⟩ := Text.pads_trim ('-' :: name)
  -- white space cannot stand before the hyphen, and the number ends before the white space
  have hnil : before = [] := by
    cases before with
    | nil => rfl
    | cons c before =>
      have hc : '-' = c := (List.cons.inj hpads).1
      exact absurd (hc ▸ hbefore c (List.mem_cons_self ..)) (by decide)
  rw [hnil, List.nil_append] at hpads
  cases hcore : Text.trim ('-' :: name) with
  | nil =>
    rw [hcore] at hread
    cases hread
  | cons sign body =>
    rw [hcore, List.cons_append, List.cons.injEq] at hpads
    obtain ⟨rfl, rfl⟩ := hpads
    rw [hcore] at hread
    obtain ⟨c, rest, rfl, hopens⟩ := Numeral.opens_of_read?_neg hread
    exact ⟨c, rest ++ after, rfl, hopens, Numeral.isMark_of_mem hread c (by simp)⟩

/-! ### One option and one measurement -/

theorem Terminal.isShown_of_isMark {c : Char} (h : Numeral.isMark c) : isShown c := by
  have hbounds := Text.lt_of_isInert (Text.isInert_of_isMark h)
  have hblank : ' ' ≤ c := Nat.le_of_lt hbounds.1
  have hdelete : c ≠ '\x7f' := by
    rintro rfl
    exact Nat.lt_irrefl _ hbounds.2
  rw [isShown, Bool.or_eq_true, Bool.and_eq_true, decide_eq_true_eq, decide_eq_true_eq]
  exact .inr ⟨hblank, hdelete⟩

/-- An unknown short option is reported as it was given. -/
theorem UsageError.message_unknownArgument {c : Char} (h : Numeral.isMark c) :
    (UsageError.unknownArgument ['-', c]).message =
      "unexpected argument '-".toList ++ c :: "' found".toList := by
  have hshown : ∀ d ∈ ['-', c], Terminal.isShown d := by
    simp only [List.forall_mem_cons]
    exact ⟨by decide, Terminal.isShown_of_isMark h, by simp⟩
  have hne : '\n' ≠ c := by
    rintro rfl
    exact absurd h (by decide)
  have hline : '\n' ∉ "unexpected argument '-".toList ++ c :: "' found".toList := by
    simp [hne]
  have hfront : "unexpected argument '-".toList = "unexpected argument '".toList ++ ['-'] := by
    decide
  have hwording : "unexpected argument '".toList ++ ['-', c] ++ "' found".toList =
      "unexpected argument '-".toList ++ c :: "' found".toList := by
    simp only [hfront, List.append_assoc, List.cons_append, List.nil_append]
  have hmessage : (unknownArgument ['-', c]).message =
      firstLine ("unexpected argument '".toList ++ Terminal.strip ['-', c] ++
        "' found".toList) := rfl
  rw [hmessage, Terminal.strip_eq_self hshown, hwording, firstLine,
    Text.cutFirst_eq_none_iff.2 hline]

/-- The configuration that one option and one measurement ask for. -/
def Config.lone (list : RangeList) (value : Binary64) : Config where
  warning := list
  critical := ⟨[]⟩
  measurements := [⟨[], value⟩]
  uom := []
  minimum := none
  maximum := none
  message := "range check".toList
  dump := false

namespace Settings

variable {env : Environment} {program : Word} {ranges t : Text} {list : RangeList}
  {measurement : Measurement}

/-- What the words say, if no variable says anything. -/
theorem ofWords_lone (ht : t.IsOperand)
    (hunset : ∀ (setting : Setting) (name : Text), setting.variableName? = some name →
      env.get? name = none) :
    Settings.ofWords env [program, .ofText "-w".toList, .ofText ranges, .ofText t] =
      .ok ⟨ranges, [], [], none, none, "range check".toList, false, [t]⟩ := by
  obtain ⟨after, hafter, hgiven⟩ :=
    Arguments.read_of_way .warning .short (Arguments.read_operand ht) rfl
  have hread : Arguments.read [.ofText "-w".toList, .ofText ranges, .ofText t] = .ok after := hafter
  have hdefault : ∀ setting : Setting,
      Arguments.resolve? ⟨[], false, [t]⟩ env setting = .ok setting.default? := by
    intro setting
    have hvariable : setting.variableName?.bind env.get? = none :=
      Option.bind_eq_none_iff.2 (hunset setting)
    rw [Arguments.resolve?, hvariable]
    rfl
  have hsettings : Arguments.settings ⟨[], false, [t]⟩ env =
      .ok ⟨[], [], [], none, none, "range check".toList, false, [t]⟩ := by
    refine Arguments.settings_eq_ok_iff.2 ⟨fun setting => ?_, rfl, rfl⟩
    rw [hdefault]
    cases setting <;> rfl
  exact ofWords_eq_ok_iff.2 ⟨after, hread, hgiven.settings_eq hsettings⟩

theorem outcome_lone (hlist : RangeList.read ranges = .ok list)
    (hvalue : Measurement.read? t = some measurement) (hlabel : measurement.label = []) :
    Settings.outcome ⟨ranges, [], [], none, none, "range check".toList, false, [t]⟩ =
      (Config.lone list measurement.value).run := by
  obtain ⟨label, value⟩ := measurement
  cases hlabel
  refine Ends.outcome_eq (.run ⟨hlist, rfl, ?_, rfl, rfl, rfl, rfl, rfl⟩ rfl (by simp))
  rw [List.map_singleton, hvalue]
  rfl

/-- A word behind the value of the option ends the reading if it is unknown. -/
theorem ofWords_unknown {c : Char} {rest : Text} (hc : c ≠ '-')
    (hshape : ¬ Text.IsUnsignedDecimal (c :: rest)) (hoption : Entry.ofShort? c = none) :
    Settings.ofWords env
        [program, .ofText "-w".toList, .ofText ranges, .ofText ('-' :: c :: rest)] =
      .error (.error (.unknownArgument ['-', c])) := by
  have hway : Setting.Way 'w' "warning".toList ranges [.ofText "-w".toList, .ofText ranges] :=
    .short
  obtain ⟨reading, hgiven, hfront⟩ := Reading.exists_given_of_way .warning hway
  have haccepts : reading.acceptsHyphen = false := hgiven.acceptsHyphen_eq
  have hend : Word.ofText ('-' :: c :: rest) ≠ Reading.terminator := by
    intro h
    have hdashes : '-' :: c :: rest = ['-', '-'] := congrArg Word.text h
    exact hc (List.cons.inj (List.cons.inj hdashes).2).1
  have hwords : Reading.start.words
      [.ofText "-w".toList, .ofText ranges, .ofText ('-' :: c :: rest)] =
        .error (.error (.unknownArgument ['-', c])) := by
    refine (hfront [.ofText ('-' :: c :: rest)]).trans ?_
    rw [Reading.words, decide_eq_false hend, Bool.false_and, if_neg Bool.false_ne_true,
      Reading.step_unknown haccepts hc hshape hoption]
    rfl
  exact ofWords_eq_error_iff.2 (.inl (congrArg (· >>= Reading.settled) hwords))

end Settings

/-- **Which numbers can be given as a measurement.** Take one option with ranges that are read, and
one number without a label. If the number does not begin with a hyphen, or goes on behind it with
digits, a fraction if there is one and an exponent without a sign if there is one, the answer is the
result of checking it. All other negative numbers, although they are read, are answered as unknown
arguments. None is taken for a request. -/
theorem Reply.of_lone_value {env : Environment} {program : Word} {ranges t : Text}
    {list : RangeList} {measurement : Measurement}
    (hunset : ∀ (setting : Setting) (name : Text), setting.variableName? = some name →
      env.get? name = none)
    (hlist : RangeList.read ranges = .ok list) (hfree : '=' ∉ t)
    (hvalue : Measurement.read? t = some measurement) :
    let reply := Reply.of env [program, .ofText "-w".toList, .ofText ranges, .ofText t]
    let config := Config.lone list measurement.value
    measurement.label = [] ∧ (reply = .outcome config.run ↔ t.IsOperand) ∧
      (¬ t.IsOperand → ∃ c rest, t = '-' :: c :: rest ∧ ¬ Text.IsUnsignedDecimal (c :: rest) ∧
        reply = .outcome (.unknown ("unexpected argument '-".toList ++ c :: "' found".toList))) ∧
      ∀ request page, reply ≠ .request request page := by
  intro reply config
  have hlabel : measurement.label = [] := by
    rw [Measurement.read?, Measurement.cut_of_not_mem hfree, Option.map_eq_some_iff] at hvalue
    obtain ⟨value, -, rfl⟩ := hvalue
    rfl
  have hoperand : t.IsOperand → reply = .outcome config.run := fun ht => by
    rw [← Settings.outcome_lone hlist hvalue hlabel]
    exact Reply.of_eq_outcome (Settings.ofWords_lone ht hunset)
  have hunknown : ¬ t.IsOperand → ∃ c rest, t = '-' :: c :: rest ∧
      ¬ Text.IsUnsignedDecimal (c :: rest) ∧
      reply = .outcome (.unknown ("unexpected argument '-".toList ++ c :: "' found".toList)) := by
    intro ht
    simp only [Text.IsOperand, not_forall] at ht
    obtain ⟨name, rfl, hshape⟩ := ht
    obtain ⟨c, rest, rfl, hopens, hmark⟩ := Measurement.opens_of_read? hfree hvalue
    obtain ⟨hc, hoption⟩ := hopens.ofShort?_eq_none
    refine ⟨c, rest, rfl, hshape, ?_⟩
    rw [← UsageError.message_unknownArgument hmark]
    simp only [reply, Reply.of, Settings.ofWords_unknown hc hshape hoption]
  refine ⟨hlabel, ⟨fun hreply => ?_, hoperand⟩, hunknown, fun request page hrequest => ?_⟩
  · -- the result of a check is never an unknown outcome
    by_contra ht
    obtain ⟨c, rest, -, -, hrefused⟩ := hunknown ht
    have hrun : config.run.severity = .unknown := by
      rw [Reply.outcome.inj (hreply.symm.trans hrefused)]
      rfl
    exact Config.run_severity_ne_unknown hrun
  · by_cases ht : t.IsOperand
    · cases (hoperand ht).symm.trans hrequest
    · obtain ⟨c, rest, -, -, hrefused⟩ := hunknown ht
      cases hrefused.symm.trans hrequest

/-- A number with a point, nothing behind the point and an exponent is checked, and the same number
with a blank behind it is not. -/
theorem Reply.of_lone_value_trailing_blank :
    let reply (t : Text) := Reply.of .empty
      [.ofText "check_range".toList, .ofText "-w".toList, .ofText "@~:-20".toList, .ofText t]
    ∃ list measurement, RangeList.read "@~:-20".toList = .ok list ∧
      Measurement.read? "-25.e1".toList = some measurement ∧
      Measurement.read? "-25.e1 ".toList = some measurement ∧
      reply "-25.e1".toList = .outcome (Config.lone list measurement.value).run ∧
      reply "-25.e1 ".toList = .outcome (.unknown "unexpected argument '-2' found".toList) := by
  intro reply
  have hranges : (RangeList.read "@~:-20".toList).toOption.isSome = true := by decide +kernel
  have hsome : (Measurement.read? "-25.e1".toList).isSome = true := by decide +kernel
  have hsame : Measurement.read? "-25.e1 ".toList = Measurement.read? "-25.e1".toList := by
    decide +kernel
  cases hlist : RangeList.read "@~:-20".toList with
  | error e =>
    rw [hlist] at hranges
    cases hranges
  | ok list =>
    obtain ⟨measurement, hvalue⟩ := Option.isSome_iff_exists.1 hsome
    have hblank := hsame.trans hvalue
    have hunset : ∀ (setting : Setting) (name : Text), setting.variableName? = some name →
        Environment.empty.get? name = none := fun _ _ _ => rfl
    refine ⟨list, measurement, rfl, hvalue, hblank, ?_, ?_⟩
    · obtain ⟨-, hoperand, -⟩ := of_lone_value hunset hlist (by decide) hvalue
      refine hoperand.2 fun name hname => Word.isNumericText_iff.1 ?_
      obtain rfl : "25.e1".toList = name := (List.cons.inj hname).2
      decide
    · obtain ⟨-, -, hunknown, -⟩ := of_lone_value hunset hlist (by decide) hblank
      have hshape : ¬ Text.IsOperand "-25.e1 ".toList := fun h =>
        absurd (Word.isNumericText_iff.2 (h "25.e1 ".toList rfl)) (by decide)
      obtain ⟨c, rest, heq, -, hreply⟩ := hunknown hshape
      obtain rfl : '2' = c := (List.cons.inj (List.cons.inj heq).2).1
      exact hreply

/-- A sign in the exponent: a thousandth below zero is read, and is not checked. -/
theorem Reply.of_lone_value_signed_exponent :
    ∃ list measurement, RangeList.read "~:0".toList = .ok list ∧ '=' ∉ "-1e-3".toList ∧
      Measurement.read? "-1e-3".toList = some measurement ∧
      (∀ (setting : Setting) (name : Text), setting.variableName? = some name →
        Environment.empty.get? name = none) ∧
      Reply.of .empty [.ofText "check_range".toList, .ofText "-w".toList, .ofText "~:0".toList,
        .ofText "-1e-3".toList] ≠ .outcome (Config.lone list measurement.value).run := by
  have hranges : (RangeList.read "~:0".toList).toOption.isSome = true := by decide +kernel
  have hsome : (Measurement.read? "-1e-3".toList).isSome = true := by decide +kernel
  have hreply : Reply.of .empty [.ofText "check_range".toList, .ofText "-w".toList,
      .ofText "~:0".toList, .ofText "-1e-3".toList] =
        .outcome ⟨.unknown, "UNKNOWN - unexpected argument '-1' found".toList⟩ := by
    decide +kernel
  cases hlist : RangeList.read "~:0".toList with
  | error e =>
    rw [hlist] at hranges
    cases hranges
  | ok list =>
    obtain ⟨measurement, hvalue⟩ := Option.isSome_iff_exists.1 hsome
    refine ⟨list, measurement, rfl, by decide, hvalue, fun _ _ _ => rfl, fun hrun => ?_⟩
    have houtcome := Reply.outcome.inj (hreply.symm.trans hrun)
    exact Config.run_severity_ne_unknown (congrArg Outcome.severity houtcome).symm

end ThresholdCheck
