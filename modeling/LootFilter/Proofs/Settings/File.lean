import LootFilter.Proofs.Toml.Lines
import LootFilter.Settings.Basic

/-!
# The file for settings is read back

The file names a version and three sections, and in each section the settings that are set. Reading
it line by line gives a document with the same sections, and the document holds the settings that
were written. The text of the default filter may have any characters.

## Main definitions

* `Settings.document` — the document that the file for settings writes

## Main results

* `Settings.readsTo_toFile` — the file is read as this document
* `Settings.ofFields?_document` — the document holds the settings
* `Settings.ofFile?_toFile` — the file is read back
-/

namespace LootFilter.Settings

open Toml (Draft Fields IsBare ReadsTo Writes)

variable {α : Type} {earlier fields : Fields} {name key rest : Text} {d : Draft}

/-- A field for a value; none if there is no value. -/
def optionalField (key : Text) (toml : α → Toml) (o : Option α) : Fields :=
  (o.map fun a => (key, toml a)).toList

/-- The document that the file for settings writes. -/
def document (s : Settings) : Fields :=
  [("version", .integer fileVersion),
    ("output", .table .explicit
      (optionalField "color" .boolean s.color ++ optionalField "json" .boolean s.json)),
    ("validate", .table .explicit
      (optionalField "warnings_as_errors" .boolean s.warningsAsErrors)),
    ("preview", .table .explicit (optionalField "default_filter" .string s.defaultFilter))]

/-! ### Lines -/

theorem lookup_optionalField_of_ne {other : Text} (toml : α → Toml) (o : Option α)
    (h : other ≠ key) : (optionalField key toml o).lookup other = none := by
  cases o with
  | none => rfl
  | some a =>
    have hne : (other == key) = false := by simpa using h
    simp [optionalField, List.lookup_cons, hne]

theorem readsTo_headerLine {table : List Text} (hbare : IsBare name)
    (hname : earlier.lookup name = none)
    (h : ReadsTo ⟨earlier ++ [(name, .table .explicit [])], [name]⟩ rest d) :
    ReadsTo ⟨earlier, table⟩ (headerLine name ++ rest) d := by
  have hline : headerLine name ++ rest = '\n' :: '[' :: (name ++ ']' :: '\n' :: rest) := by
    simp [headerLine]
  rw [hline]
  exact .lineFeed (.header hbare hname h)

theorem readsTo_fieldLine {write : α → Text} {toml : α → Toml} (o : Option α)
    (hbare : IsBare key) (hwrite : ∀ a, Writes (write a) (toml a))
    (hname : earlier.lookup name = none) (hkey : fields.lookup key = none)
    (h : ReadsTo
      ⟨earlier ++ [(name, .table .explicit (fields ++ optionalField key toml o))], [name]⟩ rest d) :
    ReadsTo ⟨earlier ++ [(name, .table .explicit fields)], [name]⟩
      (fieldLine key write o ++ rest) d := by
  cases o with
  | none => simpa [optionalField, fieldLine] using h
  | some a =>
    have hline : fieldLine key write (some a) ++ rest =
        key ++ ' ' :: '=' :: ' ' :: (write a ++ '\n' :: rest) := by
      simp [fieldLine]
    rw [hline]
    exact .sectionField hbare (hwrite a) hname hkey h

theorem writes_fileVersion : Writes (Text.ofNat fileVersion) (.integer fileVersion) := by
  have hdigits : Text.ofNat fileVersion = ['1'] := Nat.toDigits_of_lt_base (by decide)
  rw [hdigits]
  exact Toml.writes_word (by decide) (by decide) rfl (by decide)

/-! ### The whole file -/

/-- The file for settings is read as the document with its version and its sections. -/
theorem readsTo_toFile (s : Settings) :
    ReadsTo {} s.toFile ⟨s.document, ["preview"]⟩ := by
  have hversion : s.toFile = "version" ++ ' ' :: '=' :: ' ' :: (Text.ofNat fileVersion ++ '\n' ::
      (headerLine "output" ++ (fieldLine "color" Text.ofBool s.color ++
        (fieldLine "json" Text.ofBool s.json ++ (headerLine "validate" ++
          (fieldLine "warnings_as_errors" Text.ofBool s.warningsAsErrors ++
            (headerLine "preview" ++
              (fieldLine "default_filter" Toml.quote s.defaultFilter ++ [])))))))) := by
    unfold toFile
    simp only [List.append_assoc, List.append_nil]
    rfl
  rw [hversion]
  -- line by line; each setting goes to the table whose header came last
  refine .field (by decide) writes_fileVersion rfl ?_
  refine readsTo_headerLine (by decide) rfl ?_
  refine readsTo_fieldLine s.color (by decide) Toml.writes_ofBool rfl rfl ?_
  refine readsTo_fieldLine s.json (by decide) Toml.writes_ofBool rfl
    (lookup_optionalField_of_ne _ s.color (by decide)) ?_
  refine readsTo_headerLine (by decide) rfl ?_
  refine readsTo_fieldLine s.warningsAsErrors (by decide) Toml.writes_ofBool rfl rfl ?_
  refine readsTo_headerLine (by decide) rfl ?_
  refine readsTo_fieldLine s.defaultFilter (by decide) Toml.writes_quote rfl rfl ?_
  exact .nil _

/-- The document holds the settings that it was written for. -/
theorem ofFields?_document (s : Settings) : ofFields? s.document = some s := by
  obtain ⟨color, json, warningsAsErrors, defaultFilter⟩ := s
  cases color <;> cases json <;> cases warningsAsErrors <;> cases defaultFilter <;> rfl

/-- The file for settings is read back. -/
theorem ofFile?_toFile (s : Settings) : ofFile? s.toFile = some s := by
  have hmark : s.toFile.head? ≠ some '\uFEFF' := by
    unfold toFile
    simp only [List.append_assoc]
    exact fun h => absurd (Option.some.inj h) (by decide)
  rw [ofFile?, (readsTo_toFile s).read? hmark]
  exact ofFields?_document s

end LootFilter.Settings
