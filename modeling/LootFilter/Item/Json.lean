import LootFilter.Item.Basic
import LootFilter.Json.Reader

/-!
# Descriptions of items

An item is described by a JSON object with a field for every known property, or by a list of the
properties in their order. A field that is left out, or is `null`, leaves the property unknown;
only the base type is always a text. Fields that name no property are passed over.

A description is read from left to right, and the first fault decides: a property given twice is a
fault as soon as its second key has been read.

## Main definitions

* `Property.key` — the name of a property in a description
* `Item.toJson` — the description of an item
* `Item.read` — the item that a text describes
-/

namespace LootFilter

namespace Property

/-- The name of a property in a description. -/
def key : Property → Text
  | .text .baseType => "baseType"
  | .text .itemClass => "itemClass"
  | .text .rarity => "rarity"
  | .number .areaLevel => "areaLevel"
  | .number .itemLevel => "itemLevel"
  | .number .dropLevel => "dropLevel"
  | .number .quality => "quality"
  | .number .sockets => "sockets"
  | .number .stackSize => "stackSize"
  | .number .waystoneTier => "waystoneTier"

/-- The properties in the order of a description. -/
def inDescription : List Property :=
  [.text .baseType, .text .itemClass, .text .rarity] ++ NumberProperty.all.map .number

/-- The property that a key names. -/
def ofKey? (word : Text) : Option Property := inDescription.find? fun p => p.key == word

theorem mem_inDescription (p : Property) : p ∈ inDescription := by
  rcases p with p | p <;> cases p <;> decide

theorem ofKey?_key (p : Property) : ofKey? p.key = some p := by
  rcases p with p | p <;> cases p <;> decide

end Property

namespace Item

/-- The value of a property in a description, if it is to be written. -/
def described? (i : Item) : Property → Option Json
  | .text .baseType => some (.string i.baseType)
  | .text .itemClass => i.itemClass.map .string
  | .text .rarity => i.rarity.map .string
  | .number p => (i.numbers p).map fun n => .ofNat n.toNat

/-- The description of an item. Unknown properties are left out. -/
def toJson (i : Item) : Json :=
  .object (Property.inDescription.filterMap fun p => (i.described? p).map fun j => (p.key, j))

/-- The item with the value of a property taken from its description, if the value has the right
type and is in range. -/
def describe? (i : Item) : Property → Json → Option Item
  | .text .baseType, .string t => some { i with baseType := t }
  | .text .itemClass, .string t => some { i with itemClass := some t }
  | .text .itemClass, .null => some { i with itemClass := none }
  | .text .rarity, .string t => some { i with rarity := some t }
  | .text .rarity, .null => some { i with rarity := none }
  | .number p, .integer n =>
    if 0 ≤ n ∧ n < UInt32.size then some (i.withNumber p (UInt32.ofNat n.toNat)) else none
  | .number p, .null => some { i with numbers := fun q => if q = p then none else i.numbers q }
  | _, _ => none

/-- Reads the value of a property. A list or an object is refused at its first character. -/
def readValue (i : Item) (p : Property) (t : Text) : Except Json.Fault (Item × Text) :=
  match Json.skipSpace t with
  | '[' :: _ | '{' :: _ => .error .mistyped
  | t =>
    match Json.scalar .asked t with
    | .error fault => .error fault
    | .ok (j, rest) =>
      match i.describe? p j with
      | some i => .ok (i, rest)
      | none => .error .mistyped

/-- Reads the value of a field, from behind its key. The value of a field that names no property
is passed over. -/
def readField (i : Item) (p : Option Property) (t : Text) : Except Json.Fault (Item × Text) := do
  let t ← Json.colon t
  match p with
  | some p => readValue i p t
  | none =>
    let (_, rest) ← Json.value .passedOver (Json.fuelFor t) t
    return (i, rest)

/-- Reads the fields of an object up to its closing brace, from a key on. The properties given so
far are known. The fuel bounds the number of fields. -/
def readFields : Nat → Item → List Property → Text → Except Json.Fault (Item × Text)
  | 0, _, _, _ => .error .malformed
  | fuel + 1, i, given, t =>
    match Json.skipSpace t with
    | '"' :: rest => do
      let (key, rest) ← Json.stringFrom .asked [] rest
      let p := Property.ofKey? key
      if p.any given.contains then .error .mistyped
      else
        let (i, rest) ← readField i p rest
        match Json.skipSpace rest with
        | '}' :: rest => return (i, rest)
        | ',' :: rest => readFields fuel i (p.toList ++ given) rest
        | rest => .error (Json.faultAt rest)
    | rest => .error (Json.faultAt rest)

/-- Reads the values of some properties up to the closing bracket of their list, from a value
on. Properties that are left out at the end stay unknown; a further value is a fault. -/
def readList (i : Item) : List Property → Text → Except Json.Fault (Item × Text)
  | [], _ => .error .malformed
  | p :: remaining, t => do
    let (i, rest) ← readValue i p t
    match Json.skipSpace rest with
    | ']' :: rest => return (i, rest)
    | ',' :: rest =>
      match remaining, Json.skipSpace rest with
      | [], _ => .error .malformed
      | _ :: _, [] => .error .truncated
      | _ :: _, ']' :: _ => .error .malformed
      | _ :: _, rest => readList i remaining rest
    | rest => .error (Json.faultAt rest)

/-- Reads a description. -/
def readDescription (t : Text) : Except Json.Fault (Item × Text) :=
  match Json.skipSpace t with
  | '{' :: rest =>
    match Json.skipSpace rest with
    | '}' :: rest => .ok ({}, rest)
    | rest => readFields (Json.fuelFor rest) {} [] rest
  | '[' :: rest =>
    match Json.skipSpace rest with
    | [] => .error .truncated
    | ']' :: rest => .ok ({}, rest)
    | rest => readList {} Property.inDescription rest
  | t =>
    match Json.scalar .asked t with
    | .error fault => .error fault
    | .ok _ => .error .mistyped

/-- The item that a whole text describes. -/
def read (t : Text) : Except Json.Fault Item := readDescription t >>= Json.atEnd

end Item

end LootFilter
