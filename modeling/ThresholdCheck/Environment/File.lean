import ThresholdCheck.Environment
import ThresholdCheck.Text.Alphanumeric
import ThresholdCheck.Text.CodePoints

/-!
# Files of environment variables

Each line of a file sets a variable, `NAME=value`, unless the environment sets it to a text already.
Values may be quoted, over several lines if need be, and may refer to variables that hold a text.
Reading ends at the first malformed line; the lines before it hold. A value that no variable can
hold spoils everything.

## Main definitions

* `EnvironmentFile.lines` — the lines, those of quoted values put together
* `EnvironmentFile.readValue?` — the value of a text
* `EnvironmentFile.readLine` — what a line says
* `EnvironmentFile.load` — an environment together with lines
* `Environment.withFile?` — an environment together with a file

## Main results

* `EnvironmentFile.equals_not_mem_of_readLine` — lines set names without an equals sign
* `EnvironmentFile.text?_of_load`, `Environment.text?_of_withFile?` — a variable that holds a text
  keeps it
-/

namespace ThresholdCheck

namespace EnvironmentFile

/-! ### Lines -/

/-- Where in a line a character stands. -/
inductive Place where
  | plain
  | escape
  /-- After white space, where a comment may begin. -/
  | blank
  | strong
  | strongEscape
  | weak
  | weakEscape
deriving DecidableEq

/-- Where a character outside of quotes leads to. -/
def Place.afterPlain (c : Char) : Place :=
  if c = '\\' then .escape
  else if c = '"' then .weak
  else if c = '\'' then .strong
  else .plain

/-- Where a character leads to. -/
def Place.next (place : Place) (c : Char) : Place :=
  match place with
  | .plain => if Text.isBlank c && c ≠ '\n' && c ≠ '\r' then .blank else .afterPlain c
  | .blank => .afterPlain c
  | .escape => .plain
  | .strong => if c = '\\' then .strongEscape else if c = '\'' then .plain else .strong
  | .strongEscape => .strong
  | .weak => if c = '\\' then .weakEscape else if c = '"' then .plain else .weak
  | .weakEscape => .weak

/-- What of a line stands before a comment, and the place at its end, `none` in a comment. -/
def scan : Place → Text → Text × Option Place
  | place, [] => ([], some place)
  | place, c :: rest =>
    if place = .blank && c = '#' then ([], none)
    else
      let (kept, last) := scan (place.next c) rest
      (c :: kept, last)

/-- A line without the newline at its end, and without a carriage return before that. -/
def dropNewline (line : Text) : Text :=
  if line.getLast? = some '\n' then Text.dropReturn line.dropLast else line

/-- Whether a line is a comment. -/
def isComment (line : Text) : Bool := (Text.trimStart line).head? = some '#'

/-- Put together the lines of quoted values, given what is open so far. A quote, or white space,
that is open at the end of the file gives `none`. -/
def joinLines (openText : Text) (place : Place) : List Text → List (Option Text)
  | [] => if place = .plain then [] else [none]
  | line :: rest =>
    let whole := openText ++ line
    if isComment whole then some [] :: joinLines [] .plain rest
    else
      match scan place line with
      | (kept, none) => some (openText ++ kept) :: joinLines [] .plain rest
      | (_, some .plain) => some (dropNewline whole) :: joinLines [] .plain rest
      | (_, some place) => joinLines whole place rest

/-- The lines of a text, each with its newline. -/
def cutLines : Text → List Text
  | [] => []
  | c :: rest =>
    if c = '\n' then [c] :: cutLines rest
    else
      match cutLines rest with
      | [] => [[c]]
      | line :: lines => (c :: line) :: lines

/-- The text of a file without a byte order mark. -/
def dropMark : Text → Text
  | '\ufeff' :: rest => rest
  | t => t

/-- The lines of a file, those of quoted values put together. -/
def lines (t : Text) : List (Option Text) := joinLines [] .plain (cutLines (dropMark t))

/-! ### Values -/

/-- How the next character of a value is taken. -/
inductive Mode where
  | plain
  | weak
  | strong
  | escape (inQuotes : Bool)
  /-- In the name of a variable. -/
  | name (inQuotes : Bool) (name : Text)
  /-- In a name between braces. -/
  | braced (inQuotes : Bool) (name : Text)
  /-- After a blank, where only a comment may follow. -/
  | trailing

/-- Outside of names and escapes, inside or outside of double quotes. -/
def Mode.text (inQuotes : Bool) : Mode := if inQuotes then .weak else .plain

/-- The character that an escape stands for. -/
def escaped? (c : Char) : Option Char :=
  if c = 'n' then some '\n'
  else if c = '\\' || c = '\'' || c = '"' || c = '$' || c = ' ' then some c
  else none

/-- What a reference to a variable stands for: nothing if it holds no text. -/
def reference (env : Environment) (name : Text) : Text := (env.text? name).getD []

/-- The rest of a value, if it is well formed. -/
def readValueFrom (env : Environment) : Mode → Text → Option Text
  | .plain, [] => some []
  | .weak, [] => none
  | .strong, [] => none
  | .escape inQuotes, [] => if inQuotes then none else some []
  | .name inQuotes name, [] => if inQuotes then none else some (reference env name)
  | .braced _ _, [] => none
  | .trailing, [] => some []
  | .plain, c :: rest =>
    if c = '$' then readValueFrom env (.name false []) rest
    else if c = '\'' then readValueFrom env .strong rest
    else if c = '"' then readValueFrom env .weak rest
    else if c = '\\' then readValueFrom env (.escape false) rest
    else if c = ' ' || c = '\t' then readValueFrom env .trailing rest
    else (readValueFrom env .plain rest).map (c :: ·)
  | .weak, c :: rest =>
    if c = '$' then readValueFrom env (.name true []) rest
    else if c = '"' then readValueFrom env .plain rest
    else if c = '\\' then readValueFrom env (.escape true) rest
    else (readValueFrom env .weak rest).map (c :: ·)
  | .strong, c :: rest =>
    if c = '\'' then readValueFrom env .plain rest
    else (readValueFrom env .strong rest).map (c :: ·)
  | .escape inQuotes, c :: rest =>
    match escaped? c with
    | some d => (readValueFrom env (.text inQuotes) rest).map (d :: ·)
    | none => none
  | .name inQuotes name, c :: rest =>
    if Text.isAlphanumeric c then readValueFrom env (.name inQuotes (name ++ [c])) rest
    else if c = '{' && name.isEmpty then readValueFrom env (.braced inQuotes []) rest
    else if c = '$' then
      (readValueFrom env (.name inQuotes []) rest).map (reference env name ++ ·)
    else (readValueFrom env (.text inQuotes) rest).map fun t => reference env name ++ c :: t
  | .braced inQuotes name, c :: rest =>
    if c = '}' then (readValueFrom env (.text inQuotes) rest).map (reference env name ++ ·)
    else readValueFrom env (.braced inQuotes (name ++ [c])) rest
  | .trailing, c :: rest =>
    if c = ' ' || c = '\t' then readValueFrom env .trailing rest
    else if c = '#' then some []
    else none

/-- The value of a text. The character that ends the name of a variable stands for itself. -/
def readValue? (env : Environment) (t : Text) : Option Text := readValueFrom env .plain t

/-! ### Entries -/

/-- What a line says. -/
inductive Line where
  | nothing
  | malformed
  | entry (name value : Text)
deriving DecidableEq

/-- Whether a name may begin with a character. -/
def isNameStart (c : Char) : Bool := c.isAlpha || c = '_'

/-- Whether a name may hold a character. -/
def isNamePart (c : Char) : Bool := c.isAlphanum || c = '_' || c = '.'

/-- A name and what follows it, white space left out. -/
def readName? (t : Text) : Option (Text × Text) :=
  if t.head?.any isNameStart then
    some (t.takeWhile isNamePart, Text.trimStart (t.dropWhile isNamePart))
  else none

/-- What follows an equals sign and white space. -/
def readEquals? : Text → Option Text
  | '=' :: rest => some (Text.trimStart rest)
  | _ => none

/-- The name of an entry and the text of its value. `export` may stand before the name, and is a
name itself if an equals sign follows. -/
def readEntry? (t : Text) : Option (Text × Text) := do
  let (name, rest) ← readName? t
  match readEquals? rest with
  | some value => return (name, value)
  | none =>
    if name = "export".toList then
      let (name, rest) ← readName? rest
      return (name, ← readEquals? rest)
    else none

/-- What a line says; references see the given environment. -/
def readLine (env : Environment) (line : Text) : Line :=
  let t := Text.trim line
  if t.isEmpty || t.head? = some '#' then .nothing
  else
    match readEntry? t with
    | none => .malformed
    | some (name, value) =>
      if value.isEmpty || value.head? = some '#' then .entry name []
      else
        match readValue? env value with
        | some value => .entry name value
        | none => .malformed

/-- An environment together with lines, up to the first malformed one, if all their values can be
set. -/
def load (env : Environment) : List (Option Text) → Option Environment
  | [] => some env
  | none :: _ => some env
  | some line :: rest =>
    match readLine env line with
    | .nothing => load env rest
    | .malformed => some env
    | .entry name value =>
      match env.setIfUnset name value with
      | none => none
      | some env => load env rest

/-- The runs of characters that have a property, and an empty text for every other character. -/
def runs (p : Char → Bool) : Text → List Text
  | [] => [[]]
  | c :: rest =>
    match p c, runs p rest with
    | true, run :: others => (c :: run) :: others
    | _, others => [] :: others

/-- The names that a file can set or refer to. -/
def namesIn (t : Text) : List Text :=
  ((runs isNamePart t ++ runs Text.isAlphanumeric t).filter fun name => !name.isEmpty).eraseDups

theorem readName?_eq_some {t name rest : Text} (h : readName? t = some (name, rest)) :
    name ≠ [] ∧ '=' ∉ name := by
  rw [readName?, Option.ite_none_right_eq_some, Option.some.injEq, Prod.mk.injEq] at h
  obtain ⟨hstart, rfl, -⟩ := h
  constructor
  · cases t with
    | nil => cases hstart
    | cons c t =>
      have hpart : isNamePart c = true := by
        simp only [List.head?_cons, Option.any_some, isNameStart, Bool.or_eq_true] at hstart
        rcases hstart with hstart | hstart
        · simp [isNamePart, Char.isAlphanum, hstart]
        · simp [isNamePart, hstart]
      simp [hpart]
  · intro hmem
    have hpart := List.all_eq_true.1 (List.all_takeWhile (p := isNamePart) (l := t)) '=' hmem
    exact absurd hpart (by decide)

theorem readEntry?_eq_some {t name value : Text} (h : readEntry? t = some (name, value)) :
    name ≠ [] ∧ '=' ∉ name := by
  obtain ⟨⟨first, rest⟩, hfirst, h⟩ := Option.bind_eq_some_iff.1 h
  cases hequals : readEquals? rest with
  | some text =>
    simp only [hequals] at h
    cases h
    exact readName?_eq_some hfirst
  | none =>
    simp only [hequals] at h
    split at h
    · obtain ⟨⟨second, after⟩, hsecond, h⟩ := Option.bind_eq_some_iff.1 h
      obtain ⟨text, -, h⟩ := Option.bind_eq_some_iff.1 h
      cases h
      exact readName?_eq_some hsecond
    · cases h

/-- A name that a line sets is the name of a variable. -/
theorem equals_not_mem_of_readLine {env : Environment} {line name value : Text}
    (h : readLine env line = .entry name value) : name ≠ [] ∧ '=' ∉ name := by
  simp only [readLine] at h
  split at h
  · cases h
  · split at h
    · cases h
    · rename_i hentry
      have hname := readEntry?_eq_some hentry
      split at h
      · cases h
        exact hname
      · split at h
        · cases h
          exact hname
        · cases h

/-- A variable that holds a text keeps it, whatever the lines say. -/
theorem text?_of_load {env loaded : Environment} {entries : List (Option Text)}
    (hl : load env entries = some loaded) {name value : Text} (hfree : '=' ∉ name)
    (h : env.text? name = some value) : loaded.text? name = some value := by
  fun_induction load env entries with
  | case6 env _ _ _ _ hline _ hset ih =>
    obtain ⟨hname, hfree'⟩ := equals_not_mem_of_readLine hline
    exact ih hl (Environment.text?_setIfUnset hset hname hfree' hfree h)
  | _ => simp_all

end EnvironmentFile

/-- An environment together with the text of a file, if there is one and its values can be set. -/
def Environment.withFile? (env : Environment) : Option Text → Option Environment
  | none => some env
  | some t => EnvironmentFile.load env (EnvironmentFile.lines t)

/-- A variable that holds a text keeps it, whatever the file says. -/
theorem Environment.text?_of_withFile? {env next : Environment} {file? : Option Text}
    (hfile : env.withFile? file? = some next) {name value : Text} (hfree : '=' ∉ name)
    (h : env.text? name = some value) : next.text? name = some value := by
  cases file? with
  | none =>
    cases hfile
    exact h
  | some t => exact EnvironmentFile.text?_of_load hfile hfree h

end ThresholdCheck
