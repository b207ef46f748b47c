import LootFilter.Text.Basic

/-!
# Beam colours

The palette of the beam of light that marks an item on the ground.

## Main definitions

* `Beam` — the palette
* `Beam.name`, `Beam.ofName?` — the name of a palette colour, and back
* `Beam.channels`, `Beam.hex` — the colour in which a beam is drawn

## Main results

* `Beam.ofName?_eq_some_iff` — reading accepts exactly the names, letter case included
-/

namespace LootFilter

/-- A colour of the beam palette. -/
inductive Beam
  | yellow | white | red | green | blue | brown | cyan | grey | orange | pink | purple
  deriving Repr, DecidableEq

namespace Beam

/-- The palette, in its order. -/
def all : List Beam :=
  [.yellow, .white, .red, .green, .blue, .brown, .cyan, .grey, .orange, .pink, .purple]

/-- The name of a palette colour. -/
def name : Beam → Text
  | .yellow => "Yellow"
  | .white => "White"
  | .red => "Red"
  | .green => "Green"
  | .blue => "Blue"
  | .brown => "Brown"
  | .cyan => "Cyan"
  | .grey => "Grey"
  | .orange => "Orange"
  | .pink => "Pink"
  | .purple => "Purple"

/-- The palette colour with a name. Letter case matters. -/
def ofName? (word : Text) : Option Beam := all.find? fun b => b.name == word

/-- The red, green and blue channel of a palette colour. -/
def channels : Beam → Nat × Nat × Nat
  | .yellow => (0xFF, 0xD7, 0x00)
  | .white => (0xFF, 0xFF, 0xFF)
  | .red => (0xFF, 0x00, 0x00)
  | .green => (0x00, 0xFF, 0x00)
  | .blue => (0x00, 0x00, 0xFF)
  | .brown => (0x8B, 0x45, 0x13)
  | .cyan => (0x00, 0xFF, 0xFF)
  | .grey => (0x80, 0x80, 0x80)
  | .orange => (0xFF, 0xA5, 0x00)
  | .pink => (0xFF, 0xC0, 0xCB)
  | .purple => (0x80, 0x00, 0x80)

/-- A hexadecimal digit, capital. -/
def hexDigit (n : Nat) : Char := (Nat.digitChar n).toUpper

/-- A channel as two hexadecimal digits. -/
def hexChannel (n : Nat) : Text := [hexDigit (n / 16), hexDigit (n % 16)]

/-- A palette colour in hexadecimal notation, such as `#FFD700`. -/
def hex (b : Beam) : Text :=
  let (r, g, b) := b.channels
  '#' :: hexChannel r ++ hexChannel g ++ hexChannel b

theorem ofName?_name (b : Beam) : ofName? b.name = some b := by
  cases b <;> decide

theorem ofName?_eq_some_iff {word : Text} {b : Beam} : ofName? word = some b ↔ word = b.name := by
  constructor
  · intro h
    have := List.find?_some h
    exact (by simpa using this : b.name = word).symm
  · rintro rfl
    exact ofName?_name b

theorem mem_all (b : Beam) : b ∈ all := by
  cases b <;> decide

end Beam

end LootFilter
