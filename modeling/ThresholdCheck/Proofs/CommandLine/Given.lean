import ThresholdCheck.CommandLine.Reply
import ThresholdCheck.Proofs.CommandLine.Reading
import ThresholdCheck.Proofs.CommandLine.Settings

/-!
# Giving a value for a setting

A value can be given in the word after a short or a long option, in the word of the long option
itself, or by an environment variable. Where nothing else gives one, the words that follow are read
in the same way whichever of these was chosen.

Two readings of the same words are compared, the second of which has the value. It may still be held
back there, and it may end up before or behind the values of other options, so what is compared is
the value of every setting and not the list of them. The one way for the two to part is an option
that gives the setting once more; the first reading then gives it as well, and so do the words as a
whole.

## Main definitions

* `Arguments.Given`, `Reading.Given` — the same, but for a value that only the second has
* `Setting.Named` — the names under which ranges are given
* `Setting.Way` — the words that give a value
* `Environment.Sets` — an environment with one variable set

## Main results

* `Reading.Given.act`, `Reading.Given.words` — one word, and all words
* `Arguments.read_of_way` — words that give a value, in front of others
* `Arguments.settings_of_sets` — a variable that gives one
* `Settings.ofWords_given` — every way of giving a value
-/

namespace ThresholdCheck

/-! ### Arguments that differ in a value -/

namespace Arguments

variable {arguments after a b : Arguments} {setting other : Setting} {value : Text}

/-- The same arguments, but for a value of one setting that only the second have. -/
structure Given (setting : Setting) (value : Text) (a b : Arguments) : Prop where
  absent : a.value? setting = none
  given : b.value? setting = some value
  others : ∀ other, other ≠ setting → b.value? other = a.value? other
  dump : b.dump = a.dump
  measurements : b.measurements = a.measurements

/-- A value that was not given before is given by taking it. -/
theorem Given.of_put (habsent : arguments.value? setting = none) :
    arguments.Given setting value
      { arguments with values := arguments.values ++ [(setting, value)] } := by
  refine ⟨habsent, ?_, fun other hother => ?_, rfl, rfl⟩
  · simp [value?_append, habsent]
  · simp [value?_append, hother]

/-- Taking the value of another setting keeps arguments the same. -/
theorem Given.put {word : Word} (h : a.Given setting value b)
    (hput : a.put other word = .ok after) (habsent : after.value? setting = none) :
    ∃ after', b.put other word = .ok after' ∧ after.Given setting value after' := by
  obtain ⟨hnone, t, ht, rfl⟩ := put_eq_ok_iff.1 hput
  have hne : other ≠ setting := by
    rintro rfl
    simp [value?_append] at habsent
  have hnone' : b.value? other = none := (h.others other hne).trans hnone
  refine ⟨_, put_eq_ok_iff.2 ⟨hnone', t, ht, rfl⟩, ⟨habsent, ?_, fun o ho => ?_, h.dump,
    h.measurements⟩⟩
  · simp [value?_append, h.given]
  · simp [value?_append, h.others o ho]

end Arguments

/-! ### Readings that differ in a value -/

namespace Reading

variable {r r' s : Reading} {arguments : Arguments} {setting : Setting} {value : Text}
  {word : Word} {rest : List Word}

/-- The same readings, but for a value of one setting that only the second has. It may still be held
back, if nothing else is. -/
inductive Given (setting : Setting) (value : Text) : Reading → Reading → Prop
  | taken {a b : Arguments} {pending : Pending} (h : a.Given setting value b) :
      Given setting value ⟨a, pending⟩ ⟨b, pending⟩
  | held {a : Arguments} (h : a.value? setting = none) :
      Given setting value ⟨a, .nothing⟩ ⟨a, .supplied setting (.ofText value)⟩

theorem Given.acceptsHyphen_eq (h : Given setting value r r') :
    r'.acceptsHyphen = r.acceptsHyphen := by
  cases h <;> rfl

theorem Given.settle (h : Given setting value r r') (hsettle : r.settle = .ok arguments)
    (habsent : arguments.value? setting = none) :
    ∃ after, r'.settle = .ok after ∧ arguments.Given setting value after := by
  cases h with
  | @taken a b pending h =>
    cases pending with
    | nothing =>
      cases hsettle
      exact ⟨b, rfl, h⟩
    | awaiting other => cases hsettle
    | supplied other word => exact h.put hsettle habsent
    | measurements words =>
      obtain ⟨texts, htexts, rfl⟩ := Arguments.addMeasurements_eq_ok_iff.1 hsettle
      refine ⟨_, Arguments.addMeasurements_eq_ok_iff.2 ⟨texts, htexts, rfl⟩, ?_⟩
      exact ⟨h.absent, h.given, h.others, h.dump, by simp [h.measurements]⟩
  | @held a h =>
    cases hsettle
    exact ⟨_, Arguments.put_eq_ok_iff.2 ⟨h, value, Word.text?_ofText value, rfl⟩, .of_put h⟩

theorem Given.settled (h : Given setting value r r') (hsettled : r.settled = .ok arguments)
    (habsent : arguments.value? setting = none) :
    ∃ after, r'.settled = .ok after ∧ arguments.Given setting value after := by
  obtain ⟨after, hafter, hgiven⟩ := h.settle (Except.mapError_eq_ok_iff.1 hsettled) habsent
  exact ⟨after, Except.mapError_eq_ok_iff.2 hafter, hgiven⟩

theorem Given.measure (h : Given setting value r r') (hmeasure : r.measure word = .ok s)
    (habsent : ¬ s.Gives setting) :
    ∃ s', r'.measure word = .ok s' ∧ Given setting value s s' := by
  by_cases hmore : ∃ words, r.pending = .measurements words
  · obtain ⟨words, hpending⟩ := hmore
    cases h with
    | taken h =>
      cases hpending
      cases hmeasure
      exact ⟨_, rfl, .taken h⟩
    | held h => cases hpending
  · have hmore' : ¬ ∃ words, r'.pending = .measurements words := by
      cases h with
      | taken h => exact hmore
      | held h => exact fun ⟨words, hpending⟩ => by cases hpending
    rw [measure_eq_bind hmore] at hmeasure
    obtain ⟨a, hsettled, hs⟩ := Except.bind_eq_ok_iff.1 hmeasure
    cases hs
    obtain ⟨b, hb, hgiven⟩ := h.settled hsettled (not_gives_iff.1 habsent).1
    refine ⟨⟨b, .measurements [word]⟩, ?_, .taken hgiven⟩
    rw [measure_eq_bind hmore']
    exact Except.bind_eq_ok_iff.2 ⟨b, hb, rfl⟩

theorem Given.place (h : Given setting value r r') (hplace : r.place word = .ok s)
    (habsent : ¬ s.Gives setting) :
    ∃ s', r'.place word = .ok s' ∧ Given setting value s s' := by
  by_cases hawaits : ∃ other, r.pending = .awaiting other
  · obtain ⟨other, hpending⟩ := hawaits
    cases h with
    | taken h =>
      cases hpending
      cases hplace
      exact ⟨_, rfl, .taken h⟩
    | held h => cases hpending
  · have hawaits' : ¬ ∃ other, r'.pending = .awaiting other := by
      cases h with
      | taken h => exact hawaits
      | held h => exact fun ⟨other, hpending⟩ => by cases hpending
    rw [place_eq_measure hawaits] at hplace
    rw [place_eq_measure hawaits']
    exact h.measure hplace habsent

/-- What a word does to the one reading it does to the other. -/
theorem Given.act {action : Action} (h : Given setting value r r')
    (hact : r.act word action = .ok s) (habsent : ¬ s.Gives setting) :
    ∃ s', r'.act word action = .ok s' ∧ Given setting value s s' := by
  obtain ⟨hnone, -⟩ := not_gives_iff.1 habsent
  cases action with
  | place => exact h.place hact habsent
  | setting other attached =>
    obtain ⟨a, hsettled, hs⟩ := Except.bind_eq_ok_iff.1 hact
    cases attached with
    | none =>
      cases hs
      obtain ⟨b, hb, hgiven⟩ := h.settled hsettled hnone
      exact ⟨_, Except.bind_eq_ok_iff.2 ⟨b, hb, rfl⟩, .taken hgiven⟩
    | some attached =>
      obtain ⟨after, hput, hs⟩ := Except.bind_eq_ok_iff.1 hs
      cases hs
      have hput := Except.mapError_eq_ok_iff.1 hput
      have hbefore : a.value? setting = none := by
        obtain ⟨-, t, -, rfl⟩ := Arguments.put_eq_ok_iff.1 hput
        rw [Arguments.value?_append, Option.or_eq_none_iff] at hnone
        exact hnone.1
      obtain ⟨b, hb, hgiven⟩ := h.settled hsettled hbefore
      obtain ⟨after', hafter', hgiven'⟩ := hgiven.put hput hnone
      refine ⟨_, Except.bind_eq_ok_iff.2 ⟨b, hb, ?_⟩, .taken hgiven'⟩
      exact Except.bind_eq_ok_iff.2 ⟨after', Except.mapError_eq_ok_iff.2 hafter', rfl⟩
  | switch switch help =>
    obtain ⟨a, hsettled, hs⟩ := Except.bind_eq_ok_iff.1 hact
    obtain ⟨after, htrigger, hs⟩ := Except.bind_eq_ok_iff.1 hs
    cases hs
    obtain ⟨hjson, hdump, rfl⟩ := Arguments.trigger_eq_ok_iff.1 htrigger
    obtain ⟨b, hb, hgiven⟩ := h.settled hsettled hnone
    refine ⟨⟨{ b with dump := true }, .nothing⟩, ?_, .taken ?_⟩
    · refine Except.bind_eq_ok_iff.2 ⟨b, hb, ?_⟩
      refine Except.bind_eq_ok_iff.2 ⟨{ b with dump := true }, ?_, rfl⟩
      exact Arguments.trigger_eq_ok_iff.2 ⟨hjson, hgiven.dump.trans hdump, rfl⟩
    · exact ⟨hgiven.absent, hgiven.given, hgiven.others, rfl, hgiven.measurements⟩
  | refuse e => cases hact

theorem Given.foldlM_measure (h : Given setting value r r')
    (hwords : rest.foldlM Reading.measure r = .ok s) (habsent : ¬ s.Gives setting) :
    ∃ s', rest.foldlM Reading.measure r' = .ok s' ∧ Given setting value s s' := by
  induction rest generalizing r r' with
  | nil =>
    cases hwords
    exact ⟨r', rfl, h⟩
  | cons word rest ih =>
    obtain ⟨middle, hmeasure, hrest⟩ := Except.bind_eq_ok_iff.1 hwords
    obtain ⟨middle', hmeasure', hmiddle⟩ :=
      h.measure hmeasure fun hgives => habsent (hgives.foldlM_measure hrest)
    obtain ⟨s', hrest', hs⟩ := ih hmiddle hrest
    exact ⟨s', Except.bind_eq_ok_iff.2 ⟨middle', hmeasure', hrest'⟩, hs⟩

/-- Words that do not give the setting are read alike. -/
theorem Given.words (h : Given setting value r r') (hwords : r.words rest = .ok s)
    (habsent : ¬ s.Gives setting) :
    ∃ s', r'.words rest = .ok s' ∧ Given setting value s s' := by
  induction rest generalizing r r' with
  | nil =>
    cases hwords
    exact ⟨r', rfl, h⟩
  | cons word rest ih =>
    rw [Reading.words] at hwords ⊢
    rw [h.acceptsHyphen_eq]
    split at hwords
    · rename_i hend
      rw [if_pos hend]
      exact h.foldlM_measure hwords habsent
    · rename_i hend
      rw [if_neg hend]
      obtain ⟨middle, hstep, hrest⟩ := Except.bind_eq_ok_iff.1 hwords
      obtain ⟨action, haction⟩ := exists_action word r.acceptsHyphen
      rw [haction r rfl] at hstep
      obtain ⟨middle', hstep', hmiddle⟩ :=
        h.act hstep fun hgives => habsent (hgives.words hrest)
      rw [← haction r' h.acceptsHyphen_eq] at hstep'
      obtain ⟨s', hrest', hs⟩ := ih hmiddle hrest
      exact ⟨s', Except.bind_eq_ok_iff.2 ⟨middle', hstep', hrest'⟩, hs⟩

end Reading

/-! ### Ways of giving a value -/

namespace Setting

/-- The names under which ranges are given: a short and a long option, and a variable. -/
inductive Named : Setting → Char → Text → Text → Prop
  | warning : Named .warning 'w' "warning".toList "CHECK_RANGE_WARNING".toList
  | critical : Named .critical 'c' "critical".toList "CHECK_RANGE_CRITICAL".toList

/-- The words that give a value: an option and the value in the next word, or both in one word with
an equals sign between them. -/
inductive Way (letter : Char) (name value : Text) : List Word → Prop
  | short : Way letter name value [.ofText ['-', letter], .ofText value]
  | long : Way letter name value [.ofText ("--".toList ++ name), .ofText value]
  | attached : Way letter name value [.ofText ("--".toList ++ name ++ '=' :: value)]

variable {setting : Setting} {letter : Char} {name variableName : Text}

theorem Named.longName (h : setting.Named letter name variableName) : setting.longName = name := by
  cases h <;> rfl

theorem Named.variableName? (h : setting.Named letter name variableName) :
    setting.variableName? = some variableName := by
  cases h <;> rfl

theorem Named.acceptsHyphen (h : setting.Named letter name variableName) :
    setting.acceptsHyphen = true := by
  cases h <;> rfl

end Setting

namespace Reading

variable {setting : Setting} {letter : Char} {name variableName value : Text} {given : List Word}
  {arguments : Arguments}

/-- Nothing was read yet. -/
def start : Reading := ⟨.empty, .nothing⟩

/-- Behind an option whose value may start with a hyphen, any word at all is its value. -/
theorem words_awaiting (hhyphen : setting.acceptsHyphen = true) (word : Word) (rest : List Word) :
    Reading.words ⟨arguments, .awaiting setting⟩ (word :: rest) =
      Reading.words ⟨arguments, .supplied setting word⟩ rest := by
  have haccepts : acceptsHyphen ⟨arguments, .awaiting setting⟩ = true := hhyphen
  rw [Reading.words, haccepts, Bool.not_true, Bool.and_false, if_neg Bool.false_ne_true, step,
    if_pos haccepts]
  rfl

/-- The short option alone in its word awaits the value. -/
theorem words_short (h : setting.Named letter name variableName) (rest : List Word) :
    start.words (.ofText ['-', letter] :: rest) =
      Reading.words ⟨.empty, .awaiting setting⟩ rest := by
  cases h <;> rfl

/-- So does the long one. -/
theorem words_long (h : setting.Named letter name variableName) (rest : List Word) :
    start.words (.ofText ("--".toList ++ name) :: rest) =
      Reading.words ⟨.empty, .awaiting setting⟩ rest := by
  cases h <;> rfl

theorem words_attached (setting : Setting) (value : Text) (rest : List Word) :
    start.words (.ofText ("--".toList ++ setting.longName ++ '=' :: value) :: rest) =
      Reading.words ⟨⟨[(setting, value)], false, []⟩, .nothing⟩ rest := by
  have hcut : cutLong ⟨setting.longName ++ '=' :: value, []⟩ =
      (.ofText setting.longName, some (.ofText value)) := by
    have hfree : '=' ∉ setting.longName := by cases setting <;> decide
    rw [cutLong, Text.cutFirst_eq_some_iff.2 ⟨rfl, hfree⟩]
    rfl
  have hentry : (Word.ofText setting.longName).text?.bind Entry.ofLong? =
      some (.setting setting) := by
    rw [Word.text?_ofText]
    exact Entry.ofLong?_longName (.setting setting)
  have hstep : start.step (.ofText ("--".toList ++ setting.longName ++ '=' :: value)) =
      start.setting setting (some (.ofText value)) := by
    have hlong : start.step (.ofText ("--".toList ++ setting.longName ++ '=' :: value)) =
        start.long ⟨setting.longName ++ '=' :: value, []⟩ := rfl
    rw [hlong, long, hcut]
    simp only [hentry]
  have hend : Word.ofText ("--".toList ++ setting.longName ++ '=' :: value) ≠ terminator := by
    intro h
    have hlength := congrArg (fun word : Word => word.text.length) h
    simp [Word.ofText, terminator] at hlength
  rw [Reading.words, decide_eq_false hend, Bool.false_and, if_neg Bool.false_ne_true, hstep]
  rfl

/-- A way of giving a value is read as giving it, whatever follows. -/
theorem exists_given_of_way (hnamed : setting.Named letter name variableName)
    (hway : Setting.Way letter name value given) :
    ∃ reading, Given setting value start reading ∧
      ∀ rest, start.words (given ++ rest) = reading.words rest := by
  have hhyphen := hnamed.acceptsHyphen
  cases hway with
  | short =>
    refine ⟨⟨.empty, .supplied setting (.ofText value)⟩, .held rfl, fun rest => ?_⟩
    exact (words_short hnamed (.ofText value :: rest)).trans (words_awaiting hhyphen _ rest)
  | long =>
    refine ⟨⟨.empty, .supplied setting (.ofText value)⟩, .held rfl, fun rest => ?_⟩
    exact (words_long hnamed (.ofText value :: rest)).trans (words_awaiting hhyphen _ rest)
  | attached =>
    rw [← hnamed.longName]
    exact ⟨_, .taken (.of_put rfl), words_attached setting value⟩

end Reading

/-- In front of words that do not give the setting, each way of giving it adds the value and
nothing else. -/
theorem Arguments.read_of_way {setting : Setting} {letter : Char} {name variableName value : Text}
    {given rest : List Word} {arguments : Arguments}
    (hnamed : setting.Named letter name variableName) (hway : Setting.Way letter name value given)
    (hread : Arguments.read rest = .ok arguments) (habsent : arguments.value? setting = none) :
    ∃ after, Arguments.read (given ++ rest) = .ok after ∧ arguments.Given setting value after := by
  obtain ⟨s, hwords, hsettled⟩ := Except.bind_eq_ok_iff.1 hread
  obtain ⟨reading, hgiven, hfront⟩ := Reading.exists_given_of_way hnamed hway
  obtain ⟨s', hwords', hs⟩ := hgiven.words hwords fun hgives => hgives.settled hsettled habsent
  obtain ⟨after, hafter, harguments⟩ := hs.settled hsettled habsent
  refine ⟨after, Except.bind_eq_ok_iff.2 ⟨s', ?_, hafter⟩, harguments⟩
  exact (hfront rest).trans hwords'

/-! ### Settings -/

namespace Arguments

variable {a b : Arguments} {env env' : Environment} {setting : Setting} {settings : Settings}
  {value : Text}

/-- Other values are resolved alike, and settings follow from the values that are resolved. -/
theorem settings_eq_assign (ha : a.settings env = .ok settings)
    (hgiven : b.resolve? env' setting = .ok (some value))
    (hothers : ∀ other, other ≠ setting → b.resolve? env' other = a.resolve? env other)
    (hdump : b.dump = a.dump) (hmeasurements : b.measurements = a.measurements) :
    b.settings env' = .ok (settings.assign setting value) := by
  obtain ⟨hvalues, hdump', hmeasurements'⟩ := settings_eq_ok_iff.1 ha
  refine settings_eq_ok_iff.2 ⟨fun other => ?_, ?_, ?_⟩
  · by_cases hother : other = setting
    · rw [hother, hgiven, Settings.value?_assign]
    · rw [hothers other hother, hvalues, Settings.value?_assign_of_ne hother]
  · rw [Settings.dump_assign, hdump', hdump]
  · rw [Settings.measurements_assign, hmeasurements', hmeasurements]

theorem Given.settings_eq (h : a.Given setting value b) (ha : a.settings env = .ok settings) :
    b.settings env = .ok (settings.assign setting value) := by
  refine settings_eq_assign ha ?_ (fun other hother => ?_) h.dump h.measurements
  · rw [resolve?, h.given]
  · rw [resolve?, resolve?, h.others other hother]

end Arguments

/-- The second environment is the first with a variable set to a text. A name that holds an equals
sign is none of a variable. -/
structure Environment.Sets (env : Environment) (name value : Text) (env' : Environment) :
    Prop where
  value : env'.get? name = some (.ofText value)
  others : ∀ other, other ≠ name → '=' ∉ other → env'.get? other = env.get? other

/-- A variable that held no text is set by adding it. -/
theorem Environment.sets_of_setIfUnset {env env' : Environment} {name value : Text}
    (hname : name ≠ []) (hfree : '=' ∉ name) (hunset : env.text? name = none)
    (h : env.setIfUnset name value = some env') : env.Sets name value env' where
  value := get?_setIfUnset h hname hunset
  others _ hother hfree' := get?_setIfUnset_of_ne h hname hother hfree hfree'

/-- Every variable is for one setting only, and no name of one holds an equals sign. -/
theorem Setting.variableName?_inj {setting other : Setting} {name : Text}
    (h : setting.variableName? = some name) (hother : other.variableName? = some name) :
    other = setting := by
  have hsome : setting.variableName?.isSome := by rw [h]; rfl
  rw [← h] at hother
  revert hsome hother
  cases setting <;> cases other <;> decide

theorem Setting.equals_not_mem_variableName {setting : Setting} {name : Text}
    (h : setting.variableName? = some name) : name ≠ [] ∧ '=' ∉ name := by
  cases setting <;> cases h <;> decide

/-- Where no option gives the setting, its variable does. -/
theorem Arguments.settings_of_sets {arguments : Arguments} {env env' : Environment}
    {setting : Setting} {name value : Text} {settings : Settings}
    (hname : setting.variableName? = some name) (habsent : arguments.value? setting = none)
    (hsettings : arguments.settings env = .ok settings) (h : env.Sets name value env') :
    arguments.settings env' = .ok (settings.assign setting value) := by
  refine settings_eq_assign hsettings ?_ (fun other hother => ?_) rfl rfl
  · simp only [resolve?, habsent, hname, Option.bind_some, h.value, Word.text?_ofText]
  · have hsame : other.variableName?.bind env'.get? = other.variableName?.bind env.get? := by
      cases hvariable : other.variableName? with
      | none => rfl
      | some otherName =>
        refine h.others otherName ?_ (Setting.equals_not_mem_variableName hvariable).2
        rintro rfl
        exact hother (Setting.variableName?_inj hname hvariable)
    rw [resolve?, resolve?, hsame]

namespace Settings

/-- **Every way of giving ranges is as good as any other.** Take a command line that gives no
warning ranges and can be read, and any text at all as their value: behind `-w`, behind `--warning`,
behind `--warning=` and in the variable `CHECK_RANGE_WARNING` it leads to the same settings, which
differ from those without it in this value alone, and to the same reply. The same holds of critical
ranges, `-c`, `--critical` and `CHECK_RANGE_CRITICAL`. A value without a NUL can be put into the
variable. -/
theorem ofWords_given {setting : Setting} {letter : Char} {name variableName value : Text}
    {env : Environment} {program : Word} {rest : List Word} {arguments : Arguments}
    {settings : Settings} (hnamed : setting.Named letter name variableName)
    (hread : Arguments.read rest = .ok arguments) (habsent : arguments.value? setting = none)
    (hsettings : Settings.ofWords env (program :: rest) = .ok settings) :
    let after := settings.assign setting value
    (after.value? setting = some value ∧
      (∀ other, other ≠ setting → after.value? other = settings.value? other) ∧
      after.dump = settings.dump ∧ after.measurements = settings.measurements) ∧
    (∀ given, Setting.Way letter name value given →
      Settings.ofWords env (program :: (given ++ rest)) = .ok after ∧
        Reply.of env (program :: (given ++ rest)) = .outcome after.outcome) ∧
    (∀ env', env.Sets variableName value env' →
      Settings.ofWords env' (program :: rest) = .ok after ∧
        Reply.of env' (program :: rest) = .outcome after.outcome) ∧
    (env.get? variableName = none → '\x00' ∉ value →
      ∃ env', env.setIfUnset variableName value = some env' ∧
        env.Sets variableName value env') := by
  intro after
  obtain ⟨_, hread', hsettings⟩ := ofWords_eq_ok_iff.1 hsettings
  cases hread.symm.trans hread'
  refine ⟨⟨value?_assign, fun _ => value?_assign_of_ne, dump_assign, measurements_assign⟩,
    fun given hway => ?_, fun env' hsets => ?_, fun hunset hvalue => ?_⟩
  · obtain ⟨b, hb, hgiven⟩ := Arguments.read_of_way hnamed hway hread habsent
    have hafter : Settings.ofWords env (program :: (given ++ rest)) = .ok after :=
      ofWords_eq_ok_iff.2 ⟨b, hb, hgiven.settings_eq hsettings⟩
    exact ⟨hafter, Reply.of_eq_outcome hafter⟩
  · have hafter : Settings.ofWords env' (program :: rest) = .ok after :=
      ofWords_eq_ok_iff.2 ⟨arguments, hread,
        Arguments.settings_of_sets hnamed.variableName? habsent hsettings hsets⟩
    exact ⟨hafter, Reply.of_eq_outcome hafter⟩
  · obtain ⟨hne, hfree⟩ := Setting.equals_not_mem_variableName hnamed.variableName?
    have htext : env.text? variableName = none := by rw [Environment.text?, hunset]; rfl
    have hset := (Environment.setIfUnset_eq_some_iff htext).2 ⟨hvalue, rfl⟩
    exact ⟨_, hset, Environment.sets_of_setIfUnset hne hfree htext hset⟩

/-- Two hyphens as warning ranges, before words in which the short option of warnings is the value
of another option, and two hyphens and the short option of critical ranges are no options. -/
theorem ofWords_given_two_hyphens :
    let program : Word := .ofText "check".toList
    let rest : List Word :=
      ["--min", "-w", "-5", "--", "-c"].map fun word => .ofText word.toList
    let after : Settings :=
      ⟨"--".toList, [], [], some "-w".toList, none, "range check".toList, false,
        ["-5".toList, "-c".toList]⟩
    Arguments.read rest = .ok ⟨[(.minimum, "-w".toList)], false, ["-5".toList, "-c".toList]⟩ ∧
      Settings.ofWords .empty
        (program :: .ofText "-w".toList :: .ofText "--".toList :: rest) = .ok after ∧
      Settings.ofWords .empty
        (program :: .ofText "--warning".toList :: .ofText "--".toList :: rest) = .ok after ∧
      Settings.ofWords .empty (program :: .ofText "--warning=--".toList :: rest) = .ok after ∧
      Settings.ofWords ⟨[("CHECK_RANGE_WARNING".toList, "--".toList)]⟩ (program :: rest) =
        .ok after := by
  intro program rest after
  have hread : Arguments.read rest =
      .ok ⟨[(.minimum, "-w".toList)], false, ["-5".toList, "-c".toList]⟩ := by
    decide +kernel
  have hsettings : Settings.ofWords .empty (program :: rest) = .ok { after with warning := [] } :=
    ofWords_eq_ok_iff.2 ⟨_, hread, rfl⟩
  obtain ⟨-, hways, hvariable, hset⟩ :=
    @ofWords_given _ _ _ _ "--".toList _ _ _ _ _ .warning hread rfl hsettings
  obtain ⟨env', henv', hsets⟩ := hset rfl (by decide)
  cases henv'
  exact ⟨hread, (hways _ .short).1, (hways _ .long).1, (hways _ .attached).1,
    (hvariable _ hsets).1⟩

end Settings

end ThresholdCheck
