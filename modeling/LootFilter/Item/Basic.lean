import LootFilter.Property
import LootFilter.Text.Blank

/-!
# Items

An item as a filter sees it. Only the base type is always there, and it may be blank; every other
property may be unknown.

## Main definitions

* `Item` — the known properties of an item
* `Item.text?`, `Item.number?` — the value of a property
* `Item.withNumber`, `Item.withClass`, `Item.withRarity` — an item with one more known property
-/

namespace LootFilter

/-- The known properties of an item. -/
structure Item where
  /-- The base type. -/
  baseType : Text := []
  /-- The item class. -/
  itemClass : Option Text := none
  /-- The rarity. -/
  rarity : Option Text := none
  /-- The numbers. -/
  numbers : NumberProperty → Option UInt32 := fun _ => none

namespace Item

/-- The item class of currency that comes in stacks. -/
def stackableCurrency : Text := "Stackable Currency"

/-- Whether an item has a base type that is not blank. -/
def hasBaseType (i : Item) : Bool := !i.baseType.isBlankText

/-- Whether the item class is stackable currency, letter for letter. -/
def isStackableCurrency (i : Item) : Bool := i.itemClass == some stackableCurrency

/-- The value of a text property. A blank base type counts as unknown. -/
def text? (i : Item) : TextProperty → Option Text
  | .baseType => if i.hasBaseType then some i.baseType else none
  | .itemClass => i.itemClass
  | .rarity => i.rarity

/-- The value of a number property. -/
def number? (i : Item) (p : NumberProperty) : Option Nat := (i.numbers p).map UInt32.toNat

/-- An item of which only the base type is known. -/
def ofBaseType (baseType : Text) : Item := { baseType }

/-- The item with an item class. -/
def withClass (i : Item) (itemClass : Text) : Item := { i with itemClass := some itemClass }

/-- The item with a rarity. -/
def withRarity (i : Item) (rarity : Text) : Item := { i with rarity := some rarity }

/-- The item with a number. -/
def withNumber (i : Item) (p : NumberProperty) (n : UInt32) : Item :=
  { i with numbers := fun q => if q = p then some n else i.numbers q }

@[simp] theorem withNumber_numbers_self (i : Item) (p : NumberProperty) (n : UInt32) :
    (i.withNumber p n).numbers p = some n := by
  simp [withNumber]

theorem withNumber_numbers_of_ne (i : Item) {p q : NumberProperty} (h : q ≠ p) (n : UInt32) :
    (i.withNumber p n).numbers q = i.numbers q := by
  simp [withNumber, h]

theorem ext_numbers {i j : Item} (h₁ : i.baseType = j.baseType) (h₂ : i.itemClass = j.itemClass)
    (h₃ : i.rarity = j.rarity) (h₄ : ∀ p, i.numbers p = j.numbers p) : i = j := by
  cases i
  cases j
  simp_all
  exact funext h₄

end Item

end LootFilter
