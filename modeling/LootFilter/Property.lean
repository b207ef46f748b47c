import LootFilter.Text.Basic

/-!
# Item properties

A condition of a filter asks about one property of an item: a text, such as its base type, or a
number, such as its level. Each property has the keyword that a condition line begins with.

## Main definitions

* `TextProperty`, `NumberProperty`, `Property` — the properties
* `Property.keyword`, `Property.ofKeyword?` — the keyword of a property, and back

## Main results

* `Property.ofKeyword?_eq_some_iff` — reading accepts exactly the keywords, letter case included
-/

namespace LootFilter

/-- A property of an item that is a text. -/
inductive TextProperty
  /-- The item class, such as "Stackable Currency". -/
  | itemClass
  /-- The base type, such as "Chaos Orb". -/
  | baseType
  /-- Normal, Magic, Rare or Unique. -/
  | rarity
  deriving Repr, DecidableEq

/-- A property of an item that is a number. -/
inductive NumberProperty
  /-- The level of the area where the item dropped. -/
  | areaLevel
  /-- The level of the item. -/
  | itemLevel
  /-- The level from which the base type drops. -/
  | dropLevel
  /-- The quality in percent. -/
  | quality
  /-- The number of sockets. -/
  | sockets
  /-- The size of the stack. -/
  | stackSize
  /-- The tier of a waystone. -/
  | waystoneTier
  deriving Repr, DecidableEq

/-- A property that a condition can ask about. -/
inductive Property
  /-- A property compared as a text. -/
  | text (p : TextProperty)
  /-- A property compared as a number. -/
  | number (p : NumberProperty)
  deriving Repr, DecidableEq

/-- The keyword of a text property. -/
def TextProperty.keyword : TextProperty → Text
  | .itemClass => "Class"
  | .baseType => "BaseType"
  | .rarity => "Rarity"

/-- The text properties. -/
def TextProperty.all : List TextProperty := [.itemClass, .baseType, .rarity]

/-- The keyword of a number property. -/
def NumberProperty.keyword : NumberProperty → Text
  | .areaLevel => "AreaLevel"
  | .itemLevel => "ItemLevel"
  | .dropLevel => "DropLevel"
  | .quality => "Quality"
  | .sockets => "Sockets"
  | .stackSize => "StackSize"
  | .waystoneTier => "WaystoneTier"

/-- The number properties, in the order in which an item lists them. -/
def NumberProperty.all : List NumberProperty :=
  [.areaLevel, .itemLevel, .dropLevel, .quality, .sockets, .stackSize, .waystoneTier]

namespace Property

/-- The keyword with which a filter names a property. -/
def keyword : Property → Text
  | .text p => p.keyword
  | .number p => p.keyword

/-- Whether a property is compared as a number. -/
def isNumeric : Property → Bool
  | .text _ => false
  | .number _ => true

/-- All properties. -/
def all : List Property := TextProperty.all.map .text ++ NumberProperty.all.map .number

/-- The property that a word names. Letter case matters. -/
def ofKeyword? (word : Text) : Option Property := all.find? fun p => p.keyword == word

theorem mem_all (p : Property) : p ∈ all := by
  rcases p with p | p <;> cases p <;> decide

theorem keyword_injective {p q : Property} (h : p.keyword = q.keyword) : p = q := by
  revert h
  rcases p with p | p <;> cases p <;> rcases q with q | q <;> cases q <;> decide

theorem ofKeyword?_keyword (p : Property) : ofKeyword? p.keyword = some p := by
  rcases p with p | p <;> cases p <;> decide

theorem ofKeyword?_eq_some_iff {word : Text} {p : Property} :
    ofKeyword? word = some p ↔ word = p.keyword := by
  constructor
  · intro h
    have := List.find?_some h
    exact (by simpa using this : p.keyword = word).symm
  · rintro rfl
    exact ofKeyword?_keyword p

end Property

end LootFilter
