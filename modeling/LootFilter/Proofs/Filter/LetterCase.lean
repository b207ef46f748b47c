import LootFilter.Proofs.Filter.Relevance
import LootFilter.Proofs.Text.Lowercase
import LootFilter.Proofs.Text.Words

/-!
# Letter case and padding of an item

A filter takes a base type and a rarity as they are meant: with blanks around them or without, in
capitals or in small letters. Lower-casing a name needs its whole text, because a capital sigma
looks at its neighbours and the dotted capital I becomes longer. Changing the case of letters A to Z
anywhere in a name disturbs none of this. The class of an item is left out here: whether an item is
stackable currency is asked letter for letter.

## Main definitions

* `Text.Resembles` — texts that agree up to padding and the case of the letters A to Z
* `Item.Resembles` — items that agree but for the spelling of base type and rarity

## Main results

* `Item.Resembles.text?` — all text properties of such items resemble each other
* `Filter.verdict_eq_of_resembles` — such items are displayed alike
-/

namespace LootFilter

namespace Text

/-- Two texts are equal after blanks around them are removed and the letters A to Z are folded. -/
def Resembles (s t : Text) : Prop := sameIgnoringAsciiCase (trim s) (trim t) = true

instance (s t : Text) : Decidable (s.Resembles t) :=
  inferInstanceAs (Decidable (_ = true))

variable {s t : Text}

theorem Resembles.refl (t : Text) : t.Resembles t := beq_self_eq_true _

theorem Resembles.rel_refl : ∀ t? : Option Text, Option.Rel Resembles t? t?
  | none => .none
  | some t => .some (.refl t)

theorem Resembles.lowercase_trim (h : s.Resembles t) : (trim s).lowercase = (trim t).lowercase :=
  lowercase_eq_of_sameIgnoringAsciiCase h

/-- Folding keeps the length, so nothing is left of both texts or of neither. -/
theorem Resembles.isBlankText (h : s.Resembles t) : s.isBlankText = t.isBlankText := by
  have hfold : (trim s).map Char.toLower = (trim t).map Char.toLower := eq_of_beq h
  rw [Bool.eq_iff_iff, isBlankText_iff, isBlankText_iff, ← List.map_eq_nil_iff, hfold,
    List.map_eq_nil_iff]

end Text

namespace Item

/-- Two items agree, except that base types may be spelled differently, and rarities, too, if both
items have one. -/
structure Resembles (i j : Item) : Prop where
  baseType : i.baseType.Resembles j.baseType
  itemClass : i.itemClass = j.itemClass
  rarity : Option.Rel Text.Resembles i.rarity j.rarity
  numbers : i.numbers = j.numbers

variable {i j : Item}

theorem Resembles.hasBaseType (h : i.Resembles j) : i.hasBaseType = j.hasBaseType :=
  congrArg Bool.not h.baseType.isBlankText

theorem Resembles.isStackableCurrency (h : i.Resembles j) :
    i.isStackableCurrency = j.isStackableCurrency :=
  congrArg (· == some stackableCurrency) h.itemClass

/-- A text property is known of both items or of neither, and the two values resemble each other. -/
theorem Resembles.text? (h : i.Resembles j) (p : TextProperty) :
    Option.Rel Text.Resembles (i.text? p) (j.text? p) := by
  cases p with
  | baseType =>
    rw [Item.text?, Item.text?, h.hasBaseType]
    split
    · exact .some h.baseType
    · exact .none
  | itemClass =>
    rw [Item.text?, Item.text?, h.itemClass]
    exact Text.Resembles.rel_refl j.itemClass
  | rarity => exact h.rarity

end Item

variable {i j : Item}

namespace Condition

theorem agreesWithAny_congr {s t : Text} (h : s.Resembles t) (alternatives : List Text) :
    agreesWithAny s alternatives = agreesWithAny t alternatives := by
  rw [agreesWithAny, agreesWithAny, h.lowercase_trim]

theorem matchesText_of_resembles (h : i.Resembles j) (p : TextProperty) (v : Value) :
    matchesText p v i = matchesText p v j := by
  have hvalues := h.text? p
  unfold matchesText
  rw [h.isStackableCurrency]
  generalize i.text? p = actual, j.text? p = actual' at hvalues ⊢
  cases hvalues with
  | none => rfl
  | some hsame => simp only [agreesWithAny_congr hsame]

/-- A condition does not see how the texts of an item are spelled. -/
theorem holds_of_resembles (h : i.Resembles j) (c : Condition) : c.holds i = c.holds j := by
  obtain ⟨property, operator, value⟩ := c
  cases property with
  | text p => exact matchesText_of_resembles h p value
  | number p => exact matchesNumber_congr (congrFun h.numbers p) operator value

end Condition

namespace Filter

/-- **Spelling of an item.** Two items that agree up to letter case and padding of their base types
and rarities are displayed alike by every filter: hidden or shown, in which style, and by which
line. -/
theorem verdict_eq_of_resembles (filter : Text) (h : i.Resembles j) :
    verdict filter i = verdict filter j :=
  verdict_congr h.hasBaseType fun _ _ c _ => c.holds_of_resembles h

/-- Magic charms with a sigma at the end of a word are hidden. -/
def sigmaCharms : Text := "Show\n\tRarity Rare\nHide\n\tBaseType \"CHARM aΣ\"\n\tRarity MAGIC\n"

/-- A charm as it is spelled in the game. -/
def charm : Item := (Item.ofBaseType "Charm AΣ").withRarity "Magic"

/-- The same charm in other letters and with blanks around them. -/
def paddedCharm : Item := (Item.ofBaseType "\u2003cHARM aΣ\t").withRarity "magic "

/-- The sigma becomes a final one on both sides, next to a capital letter or to a small one. -/
theorem verdict_eq_of_resembles_sigmaCharms :
    charm.Resembles paddedCharm ∧ verdict sigmaCharms charm = verdict sigmaCharms paddedCharm ∧
      (verdict sigmaCharms charm).line = some 3 := by
  have hspelling : charm.Resembles paddedCharm := ⟨by decide, rfl, .some (by decide), rfl⟩
  exact ⟨hspelling, verdict_eq_of_resembles sigmaCharms hspelling, by decide +kernel⟩

end Filter

end LootFilter
