import LootFilter.Proofs.Filter.FirstMatch

/-!
# What a filter asks about

A condition reads one property of the item and no other. So a filter cannot tell two items apart
that agree on all properties that its conditions name: each condition answers the same for both, so
the same block matches first. Whether there is a base type at all is asked before any condition,
which is why both items need one, even if no condition is on the base type.

That a class is compared as a currency depends on the class alone.

## Main definitions

* `Item.AgreesOn` — items with the same value of a property
* `Filter.AsksAbout` — the properties that the conditions of a filter name

## Main results

* `Condition.holds_congr` — a condition reads the property that it names
* `Filter.verdict_eq_of_agreesOn` — a verdict depends on the properties that the filter asks about
-/

namespace LootFilter

namespace Item

/-- Two items have the same value of a property, or the property is unknown of both. -/
def AgreesOn (i j : Item) : Property → Prop
  | .text .baseType => i.baseType = j.baseType
  | .text .itemClass => i.itemClass = j.itemClass
  | .text .rarity => i.rarity = j.rarity
  | .number p => i.numbers p = j.numbers p

variable {i j : Item}

theorem AgreesOn.text? {p : TextProperty} (h : i.AgreesOn j (.text p)) : i.text? p = j.text? p := by
  cases p with
  | baseType =>
    have hsame : i.baseType = j.baseType := h
    rw [Item.text?, Item.text?, hasBaseType, hasBaseType, hsame]
  | itemClass => exact h
  | rarity => exact h

theorem AgreesOn.number? {p : NumberProperty} (h : i.AgreesOn j (.number p)) :
    i.number? p = j.number? p :=
  congrArg (Option.map UInt32.toNat) h

theorem AgreesOn.isStackableCurrency (h : i.AgreesOn j (.text .itemClass)) :
    i.isStackableCurrency = j.isStackableCurrency :=
  congrArg (· == some stackableCurrency) h

end Item

variable {i j : Item}

namespace Condition

theorem matchesText_congr {p : TextProperty} (h : i.AgreesOn j (.text p)) (v : Value) :
    matchesText p v i = matchesText p v j := by
  -- only a condition on the class asks whether the class is a currency
  have hcurrency : (p = .itemClass ∧ i.isStackableCurrency = true) ↔
      (p = .itemClass ∧ j.isStackableCurrency = true) := by
    refine and_congr_right ?_
    rintro rfl
    rw [h.isStackableCurrency]
  simp only [matchesText, h.text?, hcurrency]

theorem matchesNumber_congr {p : NumberProperty} (h : i.AgreesOn j (.number p)) (o : Operator)
    (v : Value) : matchesNumber p o v i = matchesNumber p o v j := by
  unfold matchesNumber
  rw [h.number?]

/-- A condition reads the property that it names, and nothing else of an item. -/
theorem holds_congr {c : Condition} (h : i.AgreesOn j c.property) : c.holds i = c.holds j := by
  obtain ⟨property, operator, value⟩ := c
  cases property with
  | text p => exact matchesText_congr h value
  | number p => exact matchesNumber_congr h operator value

end Condition

theorem Block.applies_congr {b : Block} (h : ∀ c ∈ b.conditions, c.holds i = c.holds j) :
    b.applies i = b.applies j := by
  rw [Bool.eq_iff_iff, applies_iff, applies_iff]
  exact forall₂_congr fun c hc => by rw [h c hc]

namespace Filter

/-- A filter asks about the properties that its conditions name. -/
def AsksAbout (filter : Text) (p : Property) : Prop :=
  ∃ b ∈ blocks filter, ∃ c ∈ b.conditions, c.property = p

/-- Items that the same blocks match have the same first match. -/
theorem firstMatch?_congr {bs : List Block} (h : ∀ b ∈ bs, b.applies i = b.applies j) :
    firstMatch? bs i = firstMatch? bs j := by
  unfold firstMatch?
  induction bs with
  | nil => rfl
  | cons b bs ih =>
    rw [List.find?_cons, List.find?_cons, h b List.mem_cons_self,
      ih fun b' hb' => h b' (List.mem_cons_of_mem b hb')]

/-- Items that pass the same conditions of a filter are displayed alike. -/
theorem verdict_congr {filter : Text} (hbase : i.hasBaseType = j.hasBaseType)
    (h : ∀ b ∈ blocks filter, ∀ c ∈ b.conditions, c.holds i = c.holds j) :
    verdict filter i = verdict filter j := by
  have hfirst : firstMatch? (blocks filter) i = firstMatch? (blocks filter) j :=
    firstMatch?_congr fun b hb => b.applies_congr (h b hb)
  rw [verdict_eq, verdict_eq, verdictOf, verdictOf, hbase, hfirst]

/-- **What the verdict depends on.** Two items with base types that agree on every property that the
filter asks about are displayed alike: hidden or shown, in which style, and by which line. -/
theorem verdict_eq_of_agreesOn (filter : Text) (hi : i.hasBaseType = true)
    (hj : j.hasBaseType = true) (h : ∀ p, AsksAbout filter p → i.AgreesOn j p) :
    verdict filter i = verdict filter j := by
  refine verdict_congr (hi.trans hj.symm) fun b hb c hc => ?_
  exact c.holds_congr (h c.property ⟨b, hb, c, hc, rfl⟩)

/-- Currency is shown where better items drop, and hidden elsewhere. -/
def currency : Text :=
  "Show\n\tClass currency\n\tAreaLevel >= 65\n\tSetFontSize 40\nHide\n\tClass Currency\n"

/-- Stackable currency found in a high area. -/
def currencyOf (baseType : Text) : Item :=
  ((Item.ofBaseType baseType).withClass "Stackable Currency").withNumber .areaLevel 70

/-- Names, rarities and stack sizes play no part in a filter on classes and area levels. -/
theorem verdict_eq_of_agreesOn_currency :
    AsksAbout currency (.text .itemClass) ∧ AsksAbout currency (.number .areaLevel) ∧
      verdict currency ((currencyOf "Chaos Orb").withRarity "Rare") =
        verdict currency ((currencyOf "Vaal Orb").withNumber .stackSize 5) ∧
      (verdict currency ((currencyOf "Chaos Orb").withRarity "Rare")).line = some 1 := by
  have hasked : ∀ b ∈ blocks currency, ∀ c ∈ b.conditions,
      c.property = .text .itemClass ∨ c.property = .number .areaLevel := by decide
  have hagree : ∀ p, AsksAbout currency p →
      ((currencyOf "Chaos Orb").withRarity "Rare").AgreesOn
        ((currencyOf "Vaal Orb").withNumber .stackSize 5) p := by
    rintro p ⟨b, hb, c, hc, rfl⟩
    rcases hasked b hb c hc with hclass | harea
    · rw [hclass]
      rfl
    · rw [harea]
      rfl
  refine ⟨?_, ?_, verdict_eq_of_agreesOn currency (by decide) (by decide) hagree, by decide⟩
  · unfold AsksAbout
    decide
  · unfold AsksAbout
    decide

end Filter

end LootFilter
