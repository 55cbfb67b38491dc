import ThresholdCheck.Proofs.Check.Stages
import ThresholdCheck.Proofs.CommandLine.Given

/-!
# How a command line can fail

A command line has one of three ends: something is asked for instead of a check, or it fails, or the
check runs. A check that runs never comes out unknown, and a failure always does, so an unknown
outcome shows what went wrong and nothing else.

The user's words can get into a failure by two ways. An input that is refused is quoted, with its
newlines escaped. A word that is no option is not, but of the wording around it only the first line
is shown. Either way the failure is one line, whatever bytes the words hold. A variable that is not
UTF-8 fails as well where it is looked at, with a wording that shows nothing of it.

Asking is left to four names, the long and the short ones of two switches. A word with such a name
only asks where it is read as an option, and once all words before it have been taken: a fault in
what is held back is reported in its place.

## Main definitions

* `Asks` — the words that ask for something instead of a check
* `Reading.Reads` — the readings that words lead to, as long as none of them ends the options
* `Asked` — some word is read as an option and asks for something
* `Fails` — the failures of a command line, with their messages

## Main results

* `Entry.ofLong?_eq_some_iff`, `Entry.ofShort?_eq_some_iff` — the options of a name
* `Reading.step_eq_request_iff`, `Reading.words_eq_request_iff` — which words are asking
* `Fails.newline_not_mem`, `Fails.reply` — failures are one line, and unknown
* `Reply.failures_one_line` — all of it
-/

namespace ThresholdCheck

/-! ### Names of options -/

namespace Entry

theorem ofLong?_eq_some_iff {name : Text} {entry : Entry} :
    ofLong? name = some entry ↔ entry.longName = name := by
  constructor
  · intro h
    rw [ofLong?] at h
    simpa using List.find?_some h
  · rintro rfl
    exact ofLong?_longName entry

theorem ofShort?_eq_some_iff {c : Char} {entry : Entry} :
    ofShort? c = some entry ↔ entry.shortName? = some c := by
  refine ⟨fun h => ?_, ofShort?_of_shortName?⟩
  rw [ofShort?] at h
  simpa using List.find?_some h

/-- Only words that are text name options. -/
theorem ofLong?_of_word_iff {word : Word} {entry : Entry} :
    word.text?.bind ofLong? = some entry ↔ word.tail = [] ∧ entry.longName = word.text := by
  rw [← ofLong?_eq_some_iff, Word.text?]
  cases word.tail <;> simp

end Entry

/-! ### Asking -/

/-- What a word asks for if it is read as an option. A short name asks whatever follows it. A long
name has to be the whole word: malformed bytes behind it belong to the name up to an equals sign, so
that there must be none. -/
inductive Asks : Word → Request → Prop
  | manual {tail : List UInt8} (h : tail.takeWhile (· ≠ 0x3d) = []) :
      Asks ⟨"--help".toList, tail⟩ .manual
  | version {tail : List UInt8} (h : tail.takeWhile (· ≠ 0x3d) = []) :
      Asks ⟨"--version".toList, tail⟩ .version
  | summary (rest : Text) (tail : List UInt8) : Asks ⟨'-' :: 'h' :: rest, tail⟩ .summary
  | shortVersion (rest : Text) (tail : List UInt8) : Asks ⟨'-' :: 'V' :: rest, tail⟩ .version

/-- A word that asks has more than a hyphen, and no digit behind it. -/
theorem Asks.exists_text {word : Word} {request : Request} (h : Asks word request) :
    ∃ c rest, word.text = '-' :: c :: rest ∧ c.isDigit = false := by
  cases h with
  | manual => exact ⟨'-', "help".toList, rfl, by decide⟩
  | version => exact ⟨'-', "version".toList, rfl, by decide⟩
  | summary rest => exact ⟨'h', rest, rfl, by decide⟩
  | shortVersion rest => exact ⟨'V', rest, rfl, by decide⟩

/-- What follows the hyphen is not taken for a value. -/
theorem Asks.not_isEmpty_or_isNumeric {name : Text} {tail : List UInt8} {request : Request}
    (h : Asks ⟨'-' :: name, tail⟩ request) :
    ((⟨name, tail⟩ : Word).isEmpty || (⟨name, tail⟩ : Word).isNumeric) = false := by
  obtain ⟨c, rest, htext, hdigit⟩ := h.exists_text
  obtain rfl : name = c :: rest := (List.cons.inj htext).2
  have hnumeric : (⟨c :: rest, tail⟩ : Word).isNumeric = false := by
    rw [Word.isNumeric, Word.text?]
    split
    · simp [Word.isNumericText, hdigit]
    · rfl
  simp [Word.isEmpty, hnumeric]

theorem asks_long_iff {name : Text} {tail : List UInt8} {request : Request} :
    Asks ⟨'-' :: '-' :: name, tail⟩ request ↔ tail.takeWhile (· ≠ 0x3d) = [] ∧
      (name = Switch.help.longName ∧ request = .manual ∨
        name = Switch.version.longName ∧ request = .version) := by
  constructor
  · intro h
    cases h with
    | manual htail => exact ⟨htail, .inl ⟨rfl, rfl⟩⟩
    | version htail => exact ⟨htail, .inr ⟨rfl, rfl⟩⟩
  · rintro ⟨htail, ⟨rfl, rfl⟩ | ⟨rfl, rfl⟩⟩
    · exact .manual htail
    · exact .version htail

theorem asks_short_iff {c : Char} (hc : c ≠ '-') {rest : Text} {tail : List UInt8}
    {request : Request} :
    Asks ⟨'-' :: c :: rest, tail⟩ request ↔
      Switch.help.shortName? = some c ∧ request = .summary ∨
        Switch.version.shortName? = some c ∧ request = .version := by
  constructor
  · intro h
    cases h with
    | manual => exact absurd rfl hc
    | version => exact absurd rfl hc
    | summary => exact .inl ⟨rfl, rfl⟩
    | shortVersion => exact .inr ⟨rfl, rfl⟩
  · rintro (⟨hname, rfl⟩ | ⟨hname, rfl⟩)
    · cases hname
      exact .summary rest tail
    · cases hname
      exact .shortVersion rest tail

/-- Only the two switches ask for something, and one of them for the help text that its name stands
for. -/
theorem Arguments.trigger_eq_request_iff {arguments : Arguments} {switch : Switch}
    {help request : Request} :
    arguments.trigger switch help = .error (.request request) ↔
      switch = .help ∧ request = help ∨ switch = .version ∧ request = .version := by
  cases switch with
  | json => cases hdump : arguments.dump <;> simp [trigger, hdump]
  | help => simp [trigger, eq_comm]
  | version => simp [trigger, eq_comm]

namespace Reading

variable {reading next : Reading} {arguments : Arguments} {setting : Setting} {word : Word}
  {words : List Word} {request : Request}

/-! ### Options that ask -/

/-! Taking what is held back never asks for anything. -/

theorem settled_ne_request : reading.settled ≠ .error (.request request) := by
  intro h
  obtain ⟨e, -, he⟩ := Except.mapError_eq_error_iff.1 h
  cases he

theorem measure_ne_request : reading.measure word ≠ .error (.request request) := by
  intro h
  rw [measure] at h
  split at h
  · cases h
  · rcases Except.bind_eq_error_iff.1 h with h | ⟨arguments, -, h⟩
    · exact settled_ne_request h
    · cases h

theorem foldlM_measure_ne_request : words.foldlM measure reading ≠ .error (.request request) := by
  induction words generalizing reading with
  | nil => exact nofun
  | cons word words ih =>
    intro h
    rcases Except.bind_eq_error_iff.1 h with h | ⟨next, -, h⟩
    · exact measure_ne_request h
    · exact ih h

theorem place_ne_request : reading.place word ≠ .error (.request request) := by
  intro h
  rw [place] at h
  split at h
  · cases h
  · exact measure_ne_request h

theorem setting_ne_request {value : Option Word} :
    reading.setting setting value ≠ .error (.request request) := by
  intro h
  rcases Except.bind_eq_error_iff.1 h with h | ⟨arguments, -, h⟩
  · exact settled_ne_request h
  · cases value with
    | none => cases h
    | some value =>
      rcases Except.bind_eq_error_iff.1 h with h | ⟨after, -, h⟩
      · obtain ⟨e, -, he⟩ := Except.mapError_eq_error_iff.1 h
        cases he
      · cases h

/-- A switch asks when everything before it has been taken. -/
theorem switch_eq_request_iff {switch : Switch} {help : Request} :
    reading.switch switch help = .error (.request request) ↔
      (∃ arguments, reading.settled = .ok arguments) ∧
        (switch = .help ∧ request = help ∨ switch = .version ∧ request = .version) := by
  rw [Reading.switch, Except.bind_eq_error_iff]
  simp only [settled_ne_request, false_or, Except.bind_eq_error_iff,
    Arguments.trigger_eq_request_iff]
  simp [pure, Except.pure]

/-- A long option that asks. -/
theorem long_eq_request_iff {name : Text} {tail : List UInt8} :
    reading.long ⟨name, tail⟩ = .error (.request request) ↔
      (∃ arguments, reading.settled = .ok arguments) ∧
        Asks ⟨'-' :: '-' :: name, tail⟩ request := by
  rw [asks_long_iff]
  cases hcut : Text.cutFirst '=' name with
  | some cut =>
    -- the two names have no equals sign, and a switch takes no value
    have hsign : '=' ∈ name := by
      obtain ⟨rfl, -⟩ := Text.cutFirst_eq_some_iff.1 hcut
      simp
    have hname : name ≠ Switch.help.longName ∧ name ≠ Switch.version.longName := by
      refine ⟨?_, ?_⟩ <;> rintro rfl <;> exact absurd hsign (by decide)
    simp only [hname, false_and, or_false, and_false, iff_false]
    simp only [long, cutLong, hcut]
    split
    · simp [unknown]
    · exact setting_ne_request
    · simp
    · rename_i heq
      cases heq
  | none =>
    generalize hspelled : (⟨name, tail.takeWhile (· ≠ 0x3d)⟩ : Word) = spelled
    have hasks : ∀ switch : Switch, tail.takeWhile (· ≠ 0x3d) = [] ∧ name = switch.longName ↔
        spelled.text?.bind Entry.ofLong? = some (.switch switch) := by
      intro switch
      rw [Entry.ofLong?_of_word_iff, ← hspelled, eq_comm (a := name)]
      rfl
    rw [and_or_left, ← and_assoc, ← and_assoc, hasks, hasks]
    simp only [long, cutLong, hcut, hspelled]
    rcases spelled.text?.bind Entry.ofLong? with - | setting | switch
    · simp [unknown]
    · simp [setting_ne_request]
    · simp [switch_eq_request_iff]

/-- A short option that asks. -/
theorem short_eq_request_iff {c : Char} (hc : c ≠ '-') {rest : Text} {tail : List UInt8} :
    reading.short ⟨c :: rest, tail⟩ = .error (.request request) ↔
      (∃ arguments, reading.settled = .ok arguments) ∧ Asks ⟨'-' :: c :: rest, tail⟩ request := by
  have hasks : ∀ switch : Switch,
      switch.shortName? = some c ↔ Entry.ofShort? c = some (.switch switch) := by
    intro switch
    rw [Entry.ofShort?_eq_some_iff]
    rfl
  rw [asks_short_iff hc, hasks, hasks]
  simp only [short]
  rcases Entry.ofShort? c with - | setting | switch
  · simp [unknown]
  · simp [setting_ne_request]
  · simp [switch_eq_request_iff]

/-! ### Words that ask -/

/-- A word asks if it is read as an option, and everything before it has been taken. -/
theorem step_eq_request_iff :
    reading.step word = .error (.request request) ↔
      reading.acceptsHyphen = false ∧ (∃ arguments, reading.settled = .ok arguments) ∧
        Asks word request := by
  cases hhyphen : reading.acceptsHyphen with
  | true =>
    rw [step, if_pos hhyphen]
    simp [place_ne_request]
  | false =>
    rw [eq_self, true_and]
    -- a word that is no option does not ask
    have hoperand : reading.step word = reading.place word → ¬ Asks word request →
        (reading.step word = .error (.request request) ↔
          (∃ arguments, reading.settled = .ok arguments) ∧ Asks word request) := by
      intro hstep hasks
      rw [hstep]
      exact iff_of_false place_ne_request fun h => hasks h.2
    obtain ⟨text, tail⟩ := word
    by_cases hplain : ∀ name, text ≠ '-' :: name
    · refine hoperand (step_plain hhyphen hplain) fun h => ?_
      obtain ⟨c, rest, htext, -⟩ := h.exists_text
      exact hplain _ htext
    obtain ⟨name, rfl⟩ : ∃ name, text = '-' :: name := by simpa using hplain
    by_cases hlong : ∃ more, name = '-' :: more
    · obtain ⟨more, rfl⟩ := hlong
      rw [step_long hhyphen, long_eq_request_iff]
    have hshort : ∀ more, name ≠ '-' :: more := by simpa using hlong
    have hstep := step_short hhyphen hshort tail
    by_cases hvalue : ((⟨name, tail⟩ : Word).isEmpty || (⟨name, tail⟩ : Word).isNumeric) = true
    · refine hoperand (hstep.trans (if_pos hvalue)) fun h => ?_
      rw [h.not_isEmpty_or_isNumeric] at hvalue
      cases hvalue
    rw [hstep, if_neg hvalue]
    cases name with
    | nil =>
      refine iff_of_false (by simp [short, unknown]) fun h => ?_
      obtain ⟨_, _, htext, -⟩ := h.2.exists_text
      cases htext
    | cons c rest => exact short_eq_request_iff fun hc => hshort rest (congrArg (· :: rest) hc)

/-- The words lead from one reading to another, each one read as an option or as the value of one,
or as a measurement; none of them ends the options. -/
inductive Reads : Reading → List Word → Reading → Prop
  | nil (reading : Reading) : Reads reading [] reading
  | cons {reading next last : Reading} {word : Word} {words : List Word}
      (hword : ¬ (word = terminator ∧ reading.acceptsHyphen = false))
      (hstep : reading.step word = .ok next) (h : Reads next words last) :
      Reads reading (word :: words) last

/-- Some word is read as an option and asks, everything before it having been taken. -/
def AskedBy (reading : Reading) (words : List Word) (request : Request) : Prop :=
  ∃ before word after last arguments, words = before ++ word :: after ∧
    reading.Reads before last ∧ last.acceptsHyphen = false ∧ last.settled = .ok arguments ∧
      Asks word request

theorem not_asks_terminator : ¬ Asks terminator request := by
  intro h
  obtain ⟨-, ⟨h, -⟩ | ⟨h, -⟩⟩ := asks_long_iff.1 h <;> exact absurd h (by decide)

/-- Words ask with the first one that does, or with those behind it. -/
theorem askedBy_cons_iff :
    reading.AskedBy (word :: words) request ↔
      reading.acceptsHyphen = false ∧ (∃ arguments, reading.settled = .ok arguments) ∧
          Asks word request ∨
        ¬ (word = terminator ∧ reading.acceptsHyphen = false) ∧
          ∃ next, reading.step word = .ok next ∧ next.AskedBy words request := by
  constructor
  · rintro ⟨before, asking, after, last, arguments, hwords, hreads, hhyphen, hsettled, hasks⟩
    cases hreads with
    | nil =>
      obtain ⟨rfl, rfl⟩ := List.cons.inj hwords
      exact .inl ⟨hhyphen, ⟨arguments, hsettled⟩, hasks⟩
    | cons hword hstep hreads =>
      obtain ⟨rfl, rfl⟩ := List.cons.inj hwords
      exact .inr ⟨hword, _, hstep, _, asking, after, last, arguments, rfl, hreads, hhyphen,
        hsettled, hasks⟩
  · rintro (⟨hhyphen, ⟨arguments, hsettled⟩, hasks⟩ | ⟨hword, next, hstep, before, asking, after,
      last, arguments, rfl, hreads, h⟩)
    · exact ⟨[], word, words, reading, arguments, rfl, .nil reading, hhyphen, hsettled, hasks⟩
    · exact ⟨word :: before, asking, after, last, arguments, rfl, .cons hword hstep hreads, h⟩

/-- What words ask for. -/
theorem words_eq_request_iff :
    reading.words words = .error (.request request) ↔ reading.AskedBy words request := by
  induction words generalizing reading with
  | nil =>
    refine iff_of_false nofun ?_
    rintro ⟨before, word, after, _, _, hwords, -⟩
    simp at hwords
  | cons word words ih =>
    rw [askedBy_cons_iff, Reading.words]
    split
    · rename_i hend
      obtain ⟨rfl, hhyphen⟩ : word = terminator ∧ reading.acceptsHyphen = false := by
        simpa using hend
      refine iff_of_false foldlM_measure_ne_request ?_
      rintro (⟨-, -, hasks⟩ | ⟨hword, -⟩)
      · exact not_asks_terminator hasks
      · exact hword ⟨rfl, hhyphen⟩
    · rename_i hend
      have hword : ¬ (word = terminator ∧ reading.acceptsHyphen = false) := by simpa using hend
      rw [Except.bind_eq_error_iff, step_eq_request_iff]
      simp only [ih, hword, not_false_eq_true, true_and]

end Reading

/-- Some word of a command line, the name of the program left out, asks for something. -/
def Asked (words : List Word) (request : Request) : Prop := Reading.start.AskedBy words request

theorem Arguments.read_eq_request_iff {words : List Word} {request : Request} :
    Arguments.read words = .error (.request request) ↔ Asked words request := by
  rw [Arguments.read, Except.bind_eq_error_iff, Reading.words_eq_request_iff]
  refine or_iff_left ?_
  rintro ⟨last, -, h⟩
  exact Reading.settled_ne_request h

theorem Settings.ofWords_eq_request_iff (env : Environment) {words : List Word}
    {request : Request} :
    Settings.ofWords env words = .error (.request request) ↔ Asked words.tail request := by
  rw [Settings.ofWords_eq_error_iff, Arguments.read_eq_request_iff]
  refine or_iff_left ?_
  rintro ⟨_, _, _, _, h⟩
  cases h

/-! ### Failing -/

/-- A command line fails with a message: its words cannot be read, or they can and a variable that
stands in for one of them is not UTF-8, or else an input of the check is refused. -/
inductive Fails (env : Environment) (words : List Word) : Text → Prop
  | usage {e : UsageError} (h : Arguments.read words.tail = .error (.error e)) :
      Fails env words e.message
  | environment {arguments : Arguments} {setting : Setting}
      (h : Arguments.read words.tail = .ok arguments) (hvalue : arguments.Malformed env setting) :
      Fails env words "invalid UTF-8 was detected in one or more arguments".toList
  | refused {settings : Settings} {e : CheckError} {message : Text}
      (h : Settings.ofWords env words = .ok settings) (hfirst : settings.FirstRefused e)
      (hmessage : e.Spelled message) : Fails env words message

variable {env : Environment} {words : List Word} {message : Text} {request : Request}

/-- Every failure is one line. -/
theorem Fails.newline_not_mem (h : Fails env words message) : '\n' ∉ message := by
  cases h with
  | usage => exact UsageError.newline_not_mem_message _
  | environment => decide
  | refused _ _ hmessage =>
    rw [CheckError.spelled_iff.1 hmessage]
    exact CheckError.newline_not_mem_message _

/-- Words that cannot be read fail, and so does a variable that is not UTF-8. -/
theorem fails_of_ofWords {e : UsageError} (h : Settings.ofWords env words = .error (.error e)) :
    Fails env words e.message := by
  rcases Settings.ofWords_eq_error_iff.1 h with h | ⟨arguments, hread, setting, hvalue, he⟩
  · exact .usage h
  · cases he
    exact .environment hread hvalue

/-- Every failure gives an unknown outcome that shows its message. -/
theorem Fails.reply (h : Fails env words message) :
    Reply.of env words = .outcome ⟨.unknown, "UNKNOWN - ".toList ++ message⟩ := by
  cases h with
  | usage h =>
    rw [Reply.of, Settings.ofWords_eq_error_iff.2 (.inl h)]
    rfl
  | environment h hvalue =>
    rw [Reply.of, Settings.ofWords_eq_error_iff.2 (.inr ⟨_, h, _, hvalue, rfl⟩)]
    rfl
  | refused h hfirst hmessage =>
    rw [Reply.of_eq_outcome h, Settings.outcome_of_firstRefused hfirst hmessage]

namespace Reply

theorem of_eq_request_iff {page : Text} :
    Reply.of env words = .request request page ↔
      Asked words.tail request ∧ page = request.page env (programNameOf words) := by
  rw [← Settings.ofWords_eq_request_iff env, Reply.of]
  rcases Settings.ofWords env words with (e | other) | settings
  · simp
  · simp only [Reply.request.injEq, Except.error.injEq, Halt.request.injEq]
    constructor
    · rintro ⟨rfl, rfl⟩
      exact ⟨rfl, rfl⟩
    · rintro ⟨rfl, rfl⟩
      exact ⟨rfl, rfl⟩
  · simp

/-- An unknown outcome is that of a failure. -/
theorem exists_fails_of_unknown {outcome : Outcome} (h : Reply.of env words = .outcome outcome)
    (hunknown : outcome.severity = .unknown) : ∃ message, Fails env words message := by
  rw [Reply.of] at h
  split at h
  · rename_i settings hread
    cases h
    obtain ⟨e, hfirst⟩ := Settings.severity_outcome_eq_unknown_iff.1 hunknown
    exact ⟨_, .refused hread hfirst (CheckError.spelled_iff.2 rfl)⟩
  · rename_i e hread
    exact ⟨_, fails_of_ofWords hread⟩
  · cases h

/-- **Failures are one line.** A command line is answered with a page exactly if one of its words
asks for it. Any other that fails, be it for words that cannot be read, for a variable that is not
UTF-8 or for an input that is refused, is answered with an unknown outcome, whose line is
`UNKNOWN - ` and a message without a newline; and an unknown outcome is never anything else. This
holds whatever bytes the words and the values of the environment are made of. -/
theorem failures_one_line (env : Environment) (words : List Word) :
    (∀ request page, Reply.of env words = .request request page ↔
      Asked words.tail request ∧ page = request.page env (programNameOf words)) ∧
    (∀ message, Fails env words message → '\n' ∉ message ∧
      Reply.of env words = .outcome ⟨.unknown, "UNKNOWN - ".toList ++ message⟩) ∧
    (∀ outcome, Reply.of env words = .outcome outcome → outcome.severity = .unknown →
      ∃ message, Fails env words message ∧ outcome.line = "UNKNOWN - ".toList ++ message ∧
        '\n' ∉ message) := by
  refine ⟨fun _ _ => of_eq_request_iff, fun _ h => ⟨h.newline_not_mem, h.reply⟩, ?_⟩
  intro outcome h hunknown
  obtain ⟨message, hfails⟩ := exists_fails_of_unknown h hunknown
  cases hfails.reply.symm.trans h
  exact ⟨message, hfails, rfl, hfails.newline_not_mem⟩

/-- Newlines in a word that is no option and in a measurement, a word and a variable that are not
UTF-8, and a word that asks although another one just like it does not. -/
theorem failures_one_line_odd_words :
    Fails .empty [.ofText "check_range".toList, .ofText "--a\nb".toList]
        "unexpected argument '--a".toList ∧
      Fails .empty [.ofText "check_range".toList, .ofText "a\nb".toList]
        "invalid measurement \"a\\nb\": expected [<label>=]<value>".toList ∧
      Fails .empty [.ofText "check_range".toList, .ofBytes [0x2d, 0x77, 0xff], .ofText "-h".toList]
        "invalid UTF-8 was detected in one or more arguments".toList ∧
      Fails ⟨[("CHECK_RANGE_WARNING".toList, .ofBytes [0x31, 0xff])]⟩
        [.ofText "check_range".toList, .ofText "--json".toList]
        "invalid UTF-8 was detected in one or more arguments".toList ∧
      Asked [.ofText "-w".toList, .ofText "--help".toList, .ofText "-hx".toList] .summary := by
  have hfails : ∀ (env : Environment) (words : List Word) (message : Text),
      Reply.of env words = .outcome ⟨.unknown, "UNKNOWN - ".toList ++ message⟩ →
        Fails env words message := by
    intro env words message h
    obtain ⟨_, hfails, hline, -⟩ := (failures_one_line env words).2.2 _ h rfl
    rwa [List.append_cancel_left hline]
  refine ⟨hfails _ _ _ (by decide +kernel), hfails _ _ _ (by decide +kernel),
    hfails _ _ _ (by decide +kernel), hfails _ _ _ (by decide +kernel), ?_⟩
  have hread : Settings.ofWords .empty [.ofText "check_range".toList, .ofText "-w".toList,
      .ofText "--help".toList, .ofText "-hx".toList] = .error (.request .summary) := by
    decide +kernel
  have hreply : Reply.of .empty [.ofText "check_range".toList, .ofText "-w".toList,
      .ofText "--help".toList, .ofText "-hx".toList] =
        .request .summary (Help.summary .empty "check_range".toList) := by
    rw [Reply.of, hread]
    rfl
  exact (((failures_one_line .empty _).1 .summary _).1 hreply).1

end Reply

end ThresholdCheck
