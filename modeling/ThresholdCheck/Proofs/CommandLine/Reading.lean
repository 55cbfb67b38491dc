import ThresholdCheck.CommandLine.Arguments
import ThresholdCheck.Proofs.Except

/-!
# What words do to a reading

Reading is a machine with a word as its input, so its steps are told here once: what a word does
depends on the reading in one point only, and what is held back is taken before anything else
happens. Nothing is taken back. In particular a setting that was given is given for good, and so the
arguments in the end tell whether some word gave it.

## Main definitions

* `Reading.Action`, `Reading.act` — what a word can do
* `Reading.Gives` — a value of a setting was given, or is held back

## Main results

* `Arguments.put_eq_ok_iff`, `Arguments.trigger_eq_ok_iff`, `Arguments.addMeasurements_eq_ok_iff` —
  what is taken
* `Reading.step_long`, `Reading.step_short`, `Reading.step_plain` — which words are options
* `Reading.exists_action` — what a word does
* `Reading.Gives.act`, `Reading.Gives.words` — a setting that was given stays given
* `Reading.Gives.settled` — and is found in the arguments
-/

namespace ThresholdCheck

/-! ### Values -/

namespace Arguments

variable {arguments after : Arguments} {setting : Setting}

theorem put_eq_ok_iff {word : Word} :
    arguments.put setting word = .ok after ↔
      arguments.value? setting = none ∧ ∃ t, word.text? = some t ∧
        after = { arguments with values := arguments.values ++ [(setting, t)] } := by
  rw [put]
  split
  · rename_i hsome
    obtain ⟨t, ht⟩ := Option.isSome_iff_exists.1 hsome
    simp [ht]
  · rename_i hnone
    rw [Option.not_isSome_iff_eq_none] at hnone
    cases word.text? <;> simp [hnone, eq_comm]

theorem addMeasurements_eq_ok_iff {words : List Word} :
    arguments.addMeasurements words = .ok after ↔
      ∃ texts, words.mapM Word.text? = some texts ∧
        after = { arguments with measurements := arguments.measurements ++ texts } := by
  rw [addMeasurements]
  cases words.mapM Word.text? <;> simp [eq_comm]

theorem trigger_eq_ok_iff {switch : Switch} {help : Request} :
    arguments.trigger switch help = .ok after ↔
      switch = .json ∧ arguments.dump = false ∧ after = { arguments with dump := true } := by
  cases switch with
  | json => cases hdump : arguments.dump <;> simp [trigger, hdump, eq_comm]
  | help => simp [trigger]
  | version => simp [trigger]

theorem value?_append (arguments : Arguments) (setting : Setting) (value : Text)
    (other : Setting) :
    ({ arguments with values := arguments.values ++ [(setting, value)] } : Arguments).value? other =
      (arguments.value? other).or (if other = setting then some value else none) := by
  rw [value?, value?, List.lookup_append, List.lookup_cons, List.lookup_nil]
  by_cases h : other = setting
  · simp [h]
  · simp [h, beq_false_of_ne h]

end Arguments

/-! ### What a word does -/

namespace Reading

variable {reading next : Reading} {arguments : Arguments} {setting : Setting} {word : Word}
  {rest : List Word}

/-- What a word does to a reading. -/
inductive Action where
  | place
  | setting (setting : Setting) (value : Option Word)
  | switch (switch : Switch) (help : Request)
  | refuse (e : UsageError)

/-- The reading after a word. -/
def act (reading : Reading) (word : Word) : Action → Except Halt Reading
  | .place => reading.place word
  | .setting setting value => reading.setting setting value
  | .switch switch help => reading.switch switch help
  | .refuse e => .error (.error e)

theorem exists_action_long (word body : Word) :
    ∃ action, ∀ reading : Reading, reading.long body = reading.act word action := by
  rcases hcut : cutLong body with ⟨name, attached⟩
  rcases hentry : name.text?.bind Entry.ofLong? with - | setting | switch
  · refine ⟨.refuse (.unknownArgument ("--".toList ++ name.shown)), fun reading => ?_⟩
    simp only [long, hcut, hentry, unknown, act]
  · refine ⟨.setting setting attached, fun reading => ?_⟩
    simp only [long, hcut, hentry, act]
  · rcases attached with - | value
    · refine ⟨.switch switch .manual, fun reading => ?_⟩
      simp only [long, hcut, hentry, act]
    · refine ⟨.refuse (.unexpectedValue switch value.shown), fun reading => ?_⟩
      simp only [long, hcut, hentry, act]

theorem exists_action_short (word body : Word) :
    ∃ action, ∀ reading : Reading, reading.short body = reading.act word action := by
  rcases body with ⟨- | ⟨c, rest⟩, tail⟩
  · refine ⟨.refuse (.unknownArgument ('-' :: (⟨[], tail⟩ : Word).shown)), fun reading => ?_⟩
    simp only [short, unknown, act]
  · rcases hentry : Entry.ofShort? c with - | setting | switch
    · refine ⟨.refuse (.unknownArgument ['-', c]), fun reading => ?_⟩
      simp only [short, hentry, unknown, act]
    · refine ⟨.setting setting (attached ⟨rest, tail⟩), fun reading => ?_⟩
      simp only [short, hentry, act]
    · refine ⟨.switch switch .summary, fun reading => ?_⟩
      simp only [short, hentry, act]

theorem step_long (h : reading.acceptsHyphen = false) (name : Text) (tail : List UInt8) :
    reading.step ⟨'-' :: '-' :: name, tail⟩ = reading.long ⟨name, tail⟩ := by
  rw [step, h, if_neg Bool.false_ne_true]
  rfl

theorem step_short (h : reading.acceptsHyphen = false) {name : Text}
    (hname : ∀ more, name ≠ '-' :: more) (tail : List UInt8) :
    reading.step ⟨'-' :: name, tail⟩ =
      if (⟨name, tail⟩ : Word).isEmpty || (⟨name, tail⟩ : Word).isNumeric then
        reading.place ⟨'-' :: name, tail⟩
      else reading.short ⟨name, tail⟩ := by
  rw [step, h, if_neg Bool.false_ne_true]
  split
  · rename_i more heq
    exact absurd (List.cons.inj heq).2 (hname more)
  · rename_i heq
    rw [(List.cons.inj heq).2]
  · rename_i hplain
    exact absurd rfl (hplain name)

theorem step_plain (h : reading.acceptsHyphen = false) (hword : ∀ name, word.text ≠ '-' :: name) :
    reading.step word = reading.place word := by
  rw [step, h, if_neg Bool.false_ne_true]
  split
  · rename_i heq
    exact absurd heq (hword _)
  · rename_i heq
    exact absurd heq (hword _)
  · rfl

/-- What a word does depends on the reading in one point only: whether the word is a value even if
it starts with a hyphen. -/
theorem exists_action (word : Word) (hyphen : Bool) :
    ∃ action, ∀ reading : Reading, reading.acceptsHyphen = hyphen →
      reading.step word = reading.act word action := by
  cases hyphen with
  | true => exact ⟨.place, fun reading h => by rw [step, if_pos h]; rfl⟩
  | false =>
    by_cases hplain : ∀ name, word.text ≠ '-' :: name
    · exact ⟨.place, fun reading h => step_plain h hplain⟩
    rcases word with ⟨text, tail⟩
    obtain ⟨name, rfl⟩ : ∃ name, text = '-' :: name := by simpa using hplain
    by_cases hshort : ∀ more, name ≠ '-' :: more
    · by_cases hvalue : ((⟨name, tail⟩ : Word).isEmpty || (⟨name, tail⟩ : Word).isNumeric) = true
      · exact ⟨.place, fun reading h => by rw [step_short h hshort, if_pos hvalue]; rfl⟩
      · obtain ⟨action, haction⟩ := exists_action_short ⟨'-' :: name, tail⟩ ⟨name, tail⟩
        refine ⟨action, fun reading h => ?_⟩
        rw [step_short h hshort, if_neg hvalue, haction]
    · obtain ⟨more, rfl⟩ : ∃ more, name = '-' :: more := by simpa using hshort
      obtain ⟨action, haction⟩ := exists_action_long ⟨'-' :: '-' :: more, tail⟩ ⟨more, tail⟩
      exact ⟨action, fun reading h => by rw [step_long h, haction]⟩

end Reading

/-! ### Settings that are given -/

/-- A value of the setting is held back, or awaited. -/
def Pending.IsFor (setting : Setting) : Pending → Prop
  | .awaiting other => other = setting
  | .supplied other _ => other = setting
  | _ => False

namespace Reading

variable {reading next : Reading} {arguments : Arguments} {setting : Setting} {word : Word}
  {rest : List Word}

/-- A value of the setting was given, or is held back. -/
def Gives (setting : Setting) (reading : Reading) : Prop :=
  reading.arguments.value? setting ≠ none ∨ reading.pending.IsFor setting

theorem not_gives_iff :
    ¬ reading.Gives setting ↔
      reading.arguments.value? setting = none ∧ ¬ reading.pending.IsFor setting := by
  rw [Gives, not_or, not_not]

theorem measure_eq_bind (h : ¬ ∃ words, reading.pending = .measurements words) :
    reading.measure word = reading.settled >>= fun a => .ok ⟨a, .measurements [word]⟩ := by
  rw [Reading.measure]
  split
  · rename_i words hpending
    exact absurd ⟨words, hpending⟩ h
  · rfl

theorem place_eq_measure (h : ¬ ∃ other, reading.pending = .awaiting other) :
    reading.place word = reading.measure word := by
  rw [Reading.place]
  split
  · rename_i other hpending
    exact absurd ⟨other, hpending⟩ h
  · rfl

/-- What is held back is not lost when it is taken. -/
theorem Gives.settle (h : reading.Gives setting) (hsettle : reading.settle = .ok arguments) :
    arguments.value? setting ≠ none := by
  rcases reading with ⟨before, pending⟩
  cases pending with
  | nothing =>
    cases hsettle
    exact h.resolve_right id
  | awaiting other => cases hsettle
  | supplied other word =>
    obtain ⟨-, t, -, rfl⟩ := Arguments.put_eq_ok_iff.1 hsettle
    rw [Arguments.value?_append, Ne, Option.or_eq_none_iff]
    rintro ⟨hnone, hother⟩
    rcases h with h | rfl
    · exact h hnone
    · simp at hother
  | measurements words =>
    obtain ⟨texts, -, rfl⟩ := Arguments.addMeasurements_eq_ok_iff.1 hsettle
    exact h.resolve_right id

theorem Gives.settled (h : reading.Gives setting) (hsettled : reading.settled = .ok arguments) :
    arguments.value? setting ≠ none :=
  h.settle (Except.mapError_eq_ok_iff.1 hsettled)

/-- A reading after which something was taken, or more is held back. -/
theorem Gives.measure (h : reading.Gives setting) (hmeasure : reading.measure word = .ok next) :
    next.Gives setting := by
  rw [Reading.measure] at hmeasure
  split at hmeasure
  · rename_i words hpending
    cases hmeasure
    rw [Gives, hpending] at h
    exact .inl (h.resolve_right id)
  · obtain ⟨arguments, hsettled, hnext⟩ := Except.bind_eq_ok_iff.1 hmeasure
    cases hnext
    exact .inl (h.settled hsettled)

/-- A setting that was given stays given. -/
theorem Gives.act {action : Action} (h : reading.Gives setting)
    (hact : reading.act word action = .ok next) : next.Gives setting := by
  cases action with
  | place =>
    rw [Reading.act, place] at hact
    split at hact
    · rename_i other hpending
      cases hact
      rwa [Gives, hpending] at h
    · exact h.measure hact
  | setting other value =>
    obtain ⟨arguments, hsettled, hnext⟩ := Except.bind_eq_ok_iff.1 hact
    have hgiven := h.settled hsettled
    cases value with
    | none =>
      cases hnext
      exact .inl hgiven
    | some value =>
      obtain ⟨after, hput, hnext⟩ := Except.bind_eq_ok_iff.1 hnext
      cases hnext
      obtain ⟨-, t, -, rfl⟩ := Arguments.put_eq_ok_iff.1 (Except.mapError_eq_ok_iff.1 hput)
      refine .inl ?_
      rw [Arguments.value?_append, Ne, Option.or_eq_none_iff]
      exact fun hnone => hgiven hnone.1
  | switch switch help =>
    obtain ⟨arguments, hsettled, hnext⟩ := Except.bind_eq_ok_iff.1 hact
    have hgiven := h.settled hsettled
    obtain ⟨after, htrigger, hnext⟩ := Except.bind_eq_ok_iff.1 hnext
    cases hnext
    obtain ⟨-, -, rfl⟩ := Arguments.trigger_eq_ok_iff.1 htrigger
    exact .inl hgiven
  | refuse e => cases hact

theorem Gives.foldlM_measure (h : reading.Gives setting)
    (hwords : rest.foldlM Reading.measure reading = .ok next) : next.Gives setting := by
  induction rest generalizing reading with
  | nil =>
    cases hwords
    exact h
  | cons word rest ih =>
    obtain ⟨middle, hmeasure, hrest⟩ := Except.bind_eq_ok_iff.1 hwords
    exact ih (h.measure hmeasure) hrest

theorem Gives.words (h : reading.Gives setting) (hwords : reading.words rest = .ok next) :
    next.Gives setting := by
  induction rest generalizing reading with
  | nil =>
    cases hwords
    exact h
  | cons word rest ih =>
    rw [Reading.words] at hwords
    split at hwords
    · exact h.foldlM_measure hwords
    · obtain ⟨middle, hstep, hrest⟩ := Except.bind_eq_ok_iff.1 hwords
      obtain ⟨action, haction⟩ := exists_action word reading.acceptsHyphen
      rw [haction reading rfl] at hstep
      exact ih (h.act hstep) hrest

end Reading

end ThresholdCheck
