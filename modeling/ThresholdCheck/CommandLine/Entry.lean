import ThresholdCheck.Text.Split

/-!
# What the command line knows

## Main definitions

* `Setting` — the options that take a value
* `Switch` — the options that take none
* `Entry` — an option of either kind
* `Entry.ofLong?`, `Entry.ofShort?` — the option of a name

## Main results

* `Entry.ofLong?_longName`, `Entry.ofShort?_of_shortName?` — names tell options apart
-/

namespace ThresholdCheck

/-- The options that take a value. -/
inductive Setting where
  | warning
  | critical
  | uom
  | minimum
  | maximum
  | message
deriving DecidableEq

/-- The options that take no value. -/
inductive Switch where
  | json
  | help
  | version
deriving DecidableEq

/-- An option. -/
inductive Entry where
  | setting (setting : Setting)
  | switch (switch : Switch)
deriving DecidableEq

namespace Setting

/-- All settings, in the order of the help text. -/
def all : List Setting := [warning, critical, uom, minimum, maximum, message]

/-- The name after two hyphens. -/
def longName : Setting → Text
  | warning => "warning".toList
  | critical => "critical".toList
  | uom => "uom".toList
  | minimum => "min".toList
  | maximum => "max".toList
  | message => "message".toList

/-- The name after one hyphen, if there is one. -/
def shortName? : Setting → Option Char
  | warning => some 'w'
  | critical => some 'c'
  | uom => some 'u'
  | minimum => none
  | maximum => none
  | message => some 'm'

/-- How the value is named. -/
def valueName : Setting → Text
  | warning => "WARNING".toList
  | critical => "CRITICAL".toList
  | uom => "UOM".toList
  | minimum => "MIN".toList
  | maximum => "MAX".toList
  | message => "MESSAGE".toList

/-- The environment variable that stands in for the option, if there is one. -/
def variableName? : Setting → Option Text
  | warning => some "CHECK_RANGE_WARNING".toList
  | critical => some "CHECK_RANGE_CRITICAL".toList
  | uom => some "CHECK_RANGE_UOM".toList
  | _ => none

/-- The value without option and variable, if there is one. -/
def default? : Setting → Option Text
  | warning => some []
  | critical => some []
  | uom => some []
  | minimum => none
  | maximum => none
  | message => some "range check".toList

/-- Whether the word after the option is its value even if it starts with a hyphen, as negative
bounds do. -/
def acceptsHyphen : Setting → Bool
  | warning => true
  | critical => true
  | uom => false
  | minimum => true
  | maximum => true
  | message => false

/-- The option as messages and the help text name it. -/
def usage (setting : Setting) : Text :=
  "--".toList ++ setting.longName ++ " <".toList ++ setting.valueName ++ ['>']

end Setting

namespace Switch

/-- All switches, in the order of the help text. -/
def all : List Switch := [json, help, version]

/-- The name after two hyphens. -/
def longName : Switch → Text
  | json => "json".toList
  | help => "help".toList
  | version => "version".toList

/-- The name after one hyphen, if there is one. -/
def shortName? : Switch → Option Char
  | json => none
  | help => some 'h'
  | version => some 'V'

/-- The switch as messages and the help text name it. -/
def usage (switch : Switch) : Text := "--".toList ++ switch.longName

end Switch

namespace Entry

/-- All options. -/
def all : List Entry := Setting.all.map setting ++ Switch.all.map switch

/-- The name after two hyphens. -/
def longName : Entry → Text
  | setting s => s.longName
  | switch s => s.longName

/-- The name after one hyphen, if there is one. -/
def shortName? : Entry → Option Char
  | setting s => s.shortName?
  | switch s => s.shortName?

/-- The option as messages name it. -/
def usage : Entry → Text
  | setting s => s.usage
  | switch s => s.usage

/-- The option of a long name. -/
def ofLong? (name : Text) : Option Entry := all.find? fun entry => entry.longName = name

/-- The option of a short name. -/
def ofShort? (c : Char) : Option Entry := all.find? fun entry => entry.shortName? = some c

theorem ofLong?_longName (entry : Entry) : ofLong? entry.longName = some entry := by
  cases entry with
  | setting s => cases s <;> decide
  | switch s => cases s <;> decide

theorem ofShort?_of_shortName? {entry : Entry} {c : Char} (h : entry.shortName? = some c) :
    ofShort? c = some entry := by
  cases entry with
  | setting s => cases s <;> simp [shortName?, Setting.shortName?] at h <;> subst h <;> decide
  | switch s => cases s <;> simp [shortName?, Switch.shortName?] at h <;> subst h <;> decide

end Entry

end ThresholdCheck
