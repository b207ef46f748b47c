import LootFilter.Filter.Block
import LootFilter.Item.Basic

/-!
# Verdicts

The first block that matches an item decides how the item appears. Texts are compared without
regard to letter case and surrounding blanks, and the operator of such a condition plays no part.
Stackable currency answers to two names of its class. A condition on an unknown property fails.

## Main definitions

* `Condition.holds`, `Block.applies` — whether a condition, a block applies to an item
* `Verdict` — how an item appears
* `Filter.verdictOf`, `Filter.verdict` — the verdict of some blocks, of a filter
-/

namespace LootFilter

namespace Condition

/-- The names of the class of stackable currency, for comparison up to ASCII letter case. -/
def currencyNames : List Text := ["currency", "stackable currency"]

/-- Whether a text is one of several alternatives, up to letter case and surrounding blanks. -/
def agreesWithAny (actual : Text) (alternatives : List Text) : Bool :=
  alternatives.any fun a => (Text.trim a).lowercase == (Text.trim actual).lowercase

/-- Whether one of several alternatives names the class of stackable currency. -/
def namesCurrency (alternatives : List Text) : Bool :=
  alternatives.any fun a => currencyNames.any (Text.sameIgnoringAsciiCase (Text.trim a))

/-- Whether the alternatives of a value agree with a text property of an item. -/
def matchesText (p : TextProperty) (v : Value) (i : Item) : Bool :=
  match i.text? p with
  | none => false
  | some actual =>
    if p = .itemClass ∧ i.isStackableCurrency then namesCurrency v.alternatives
    else agreesWithAny actual v.alternatives

/-- Whether a comparison holds between a number property of an item and a value. -/
def matchesNumber (p : NumberProperty) (o : Operator) (v : Value) (i : Item) : Bool :=
  match i.number? p, v with
  | some actual, .number expected => o.holds actual expected
  | _, _ => false

/-- Whether a condition holds for an item. -/
def holds (c : Condition) (i : Item) : Bool :=
  match c.property with
  | .text p => matchesText p c.value i
  | .number p => matchesNumber p c.operator c.value i

end Condition

/-- Whether all conditions of a block hold for an item. -/
def Block.applies (b : Block) (i : Item) : Bool := b.conditions.all (·.holds i)

/-- How an item appears. -/
structure Verdict where
  /-- Whether the item is hidden. -/
  isHidden : Bool
  /-- How its label is drawn. -/
  style : Style
  /-- The line of the header of the block that decided, if one did. -/
  line : Option Nat
  deriving Repr, DecidableEq

namespace Verdict

/-- The verdict on an item that no block matches: it is shown in the default style. -/
def unmatched : Verdict := ⟨false, .default, none⟩

/-- The verdict of a block that matches. -/
def ofBlock (b : Block) : Verdict := ⟨b.isHide, b.style, some b.line⟩

end Verdict

namespace Filter

/-- The first of some blocks that matches an item. -/
def firstMatch? (blocks : List Block) (i : Item) : Option Block := blocks.find? (·.applies i)

/-- The verdict of some blocks on an item. Without a base type no block is consulted. -/
def verdictOf (blocks : List Block) (i : Item) : Verdict :=
  if i.hasBaseType then
    match firstMatch? blocks i with
    | some b => .ofBlock b
    | none => .unmatched
  else .unmatched

/-- The verdict of a filter on an item. An item without a base type appears in the default style,
and the filter is not read. -/
def verdict (filter : Text) (i : Item) : Verdict :=
  if i.hasBaseType then verdictOf (blocks filter) i else .unmatched

/-- The items that some blocks do not hide, in order. -/
def visibleItems (blocks : List Block) (items : List Item) : List Item :=
  items.filter fun i => !(verdictOf blocks i).isHidden

end Filter

end LootFilter
