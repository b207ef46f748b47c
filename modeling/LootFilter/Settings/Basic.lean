import LootFilter.Json.Basic
import LootFilter.Text.Lowercase
import LootFilter.Toml.Reader

/-!
# Settings

Settings that hold for every run. Each may be set or not; they are kept in a TOML file with three
sections. A section may also be written as a list of its settings, in their order. Fields that name
no setting are passed over, and a file may come from any version.

## Main definitions

* `Settings`, `SettingKey` — the settings, and their keys
* `Settings.set` — the settings with a new value
* `Settings.ofFile?`, `Settings.toFile` — the settings that a file holds, and the file for them

## Main results

* `SettingKey.ofName?_eq_some_iff` — reading accepts exactly the names of keys
-/

namespace LootFilter

/-- The settings; a missing one has its default. -/
structure Settings where
  /-- Whether output is in colour. -/
  color : Option Bool := none
  /-- Whether output is in JSON. -/
  json : Option Bool := none
  /-- Whether a check fails on warnings. -/
  warningsAsErrors : Option Bool := none
  /-- The filter of previews that name none. -/
  defaultFilter : Option Text := none
  deriving Repr, DecidableEq

/-- The key of a setting. -/
inductive SettingKey
  | color | json | warningsAsErrors | defaultFilter
  deriving Repr, DecidableEq

namespace SettingKey

/-- The keys. -/
def all : List SettingKey := [.color, .json, .warningsAsErrors, .defaultFilter]

/-- The name of a key: its section and its field. -/
def name : SettingKey → Text
  | .color => "output.color"
  | .json => "output.json"
  | .warningsAsErrors => "validate.warnings_as_errors"
  | .defaultFilter => "preview.default_filter"

/-- The key with a name. -/
def ofName? (word : Text) : Option SettingKey := all.find? fun k => k.name == word

theorem ofName?_name (k : SettingKey) : ofName? k.name = some k := by
  cases k <;> decide

theorem ofName?_eq_some_iff {word : Text} {k : SettingKey} :
    ofName? word = some k ↔ word = k.name := by
  constructor
  · intro h
    have := List.find?_some h
    exact (by simpa using this : k.name = word).symm
  · rintro rfl
    exact ofName?_name k

end SettingKey

/-- Why a setting cannot be set. -/
inductive SettingFault
  /-- There is no setting with the key. -/
  | unknownKey (key : Text)
  /-- The value is no truth value. -/
  | invalidBoolean (value : Text)
  deriving Repr, DecidableEq

namespace SettingFault

/-- The wording of a fault. -/
def message : SettingFault → Text
  | .unknownKey key =>
    "Unknown config key '" ++ key ++ "'. Valid keys: " ++
      Text.joined ", " (SettingKey.all.map SettingKey.name)
  | .invalidBoolean value =>
    "Invalid boolean value '" ++ value ++ "'. Use true/false, yes/no, 1/0, or on/off"

end SettingFault

namespace Settings

/-- The current version of settings files. -/
def fileVersion : Nat := 1

/-! ### Setting -/

/-- The words for true. -/
def trueWords : List Text := ["true", "yes", "1", "on"]

/-- The words for false. -/
def falseWords : List Text := ["false", "no", "0", "off"]

/-- The truth value that a word stands for, in letters of either case. -/
def boolean (word : Text) : Except SettingFault Bool :=
  if trueWords.contains word.lowercase then .ok true
  else if falseWords.contains word.lowercase then .ok false
  else .error (.invalidBoolean word)

/-- The settings with a new value for a key. -/
def setKey (s : Settings) (k : SettingKey) (value : Text) : Except SettingFault Settings :=
  match k with
  | .color => (boolean value).map fun b => { s with color := some b }
  | .json => (boolean value).map fun b => { s with json := some b }
  | .warningsAsErrors => (boolean value).map fun b => { s with warningsAsErrors := some b }
  | .defaultFilter => .ok { s with defaultFilter := some value }

/-- The settings with a new value for the key with a name. -/
def set (s : Settings) (key value : Text) : Except SettingFault Settings :=
  match SettingKey.ofName? key with
  | some k => s.setKey k value
  | none => .error (.unknownKey key)

/-! ### Reading -/

/-- A truth value. -/
def booleanOf? : Toml → Option Bool
  | .boolean b => some b
  | _ => none

/-- A text. -/
def textOf? : Toml → Option Text
  | .string t => some t
  | _ => none

/-- A field that may be missing, but has to have the right type. -/
def field? {α : Type} (read : Toml → Option α) (key : Text) (fields : Toml.Fields) :
    Option (Option α) :=
  match fields.lookup key with
  | none => some none
  | some v => (read v).map some

/-- The section on output. -/
def output? : Toml → Settings → Option Settings
  | .table _ fields, s => do
    let color ← field? booleanOf? "color" fields
    let json ← field? booleanOf? "json" fields
    return { s with color, json }
  | .array (color :: json :: _), s => do
    let color ← booleanOf? color
    let json ← booleanOf? json
    return { s with color := some color, json := some json }
  | .dateTime, s => some s
  | _, _ => none

/-- The section on checks. -/
def validate? : Toml → Settings → Option Settings
  | .table _ fields, s => do
    let warningsAsErrors ← field? booleanOf? "warnings_as_errors" fields
    return { s with warningsAsErrors }
  | .array (warningsAsErrors :: _), s => do
    let warningsAsErrors ← booleanOf? warningsAsErrors
    return { s with warningsAsErrors := some warningsAsErrors }
  | .dateTime, s => some s
  | _, _ => none

/-- The section on previews. -/
def preview? : Toml → Settings → Option Settings
  | .table _ fields, s => do
    let defaultFilter ← field? textOf? "default_filter" fields
    return { s with defaultFilter }
  | .array (defaultFilter :: _), s => do
    let defaultFilter ← textOf? defaultFilter
    return { s with defaultFilter := some defaultFilter }
  | .dateTime, s => some s
  | _, _ => none

/-- Whether a value is a version: a number of 32 bits. -/
def isVersion : Toml → Bool
  | .integer n => 0 ≤ n && n < UInt32.size
  | _ => false

/-- Adds a section of a document, if it is there. -/
def withSection? (section? : Toml → Settings → Option Settings) (key : Text)
    (document : Toml.Fields) (s : Settings) : Option Settings :=
  match document.lookup key with
  | some v => section? v s
  | none => some s

/-- The settings that the fields of a document hold. -/
def ofFields? (document : Toml.Fields) : Option Settings :=
  if (document.lookup ("version" : Text)).all isVersion then do
    let s ← withSection? output? "output" document {}
    let s ← withSection? validate? "validate" document s
    withSection? preview? "preview" document s
  else none

/-- The settings that a file holds. -/
def ofFile? (content : Text) : Option Settings := Toml.read? content >>= ofFields?

/-! ### Writing -/

/-- A line for a setting; none if it is not set. -/
def fieldLine {α : Type} (key : Text) (write : α → Text) : Option α → Text
  | some a => key ++ " = " ++ write a ++ ['\n']
  | none => []

/-- The header of a section. -/
def headerLine (name : Text) : Text := "\n[" ++ name ++ "]\n"

/-- The file for the settings. -/
def toFile (s : Settings) : Text :=
  "version = " ++ Text.ofNat fileVersion ++ ['\n'] ++
    headerLine "output" ++ fieldLine "color" Text.ofBool s.color ++
    fieldLine "json" Text.ofBool s.json ++
    headerLine "validate" ++ fieldLine "warnings_as_errors" Text.ofBool s.warningsAsErrors ++
    headerLine "preview" ++ fieldLine "default_filter" Toml.quote s.defaultFilter

/-- The settings in JSON, with the sections and their fields in alphabetic order. -/
def toJson (s : Settings) : Json :=
  .object [
    ("output", .object (Json.optionalField "color" .bool s.color ++
      Json.optionalField "json" .bool s.json)),
    ("preview", .object (Json.optionalField "default_filter" .string s.defaultFilter)),
    ("validate", .object (Json.optionalField "warnings_as_errors" .bool s.warningsAsErrors)),
    ("version", .ofNat fileVersion)]

end Settings

end LootFilter
