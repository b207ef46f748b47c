import LootFilter.Proofs.Filter.FirstMatch

/-!
# Items of which more is known

Most properties of an item may be unknown, and a condition on an unknown property fails, whatever
its operator is. So nothing that becomes known of an item takes a match away: the conditions and the
blocks that matched the item match it still. A block further up may match as well, so the match of
the item can move up. It cannot move down, and it does not get lost.

The class of an item is the one property whose value decides how it is compared. Once it is known it
stays, and so does the comparison.

## Main definitions

* `Item.Extends` — an item of which at least as much is known

## Main results

* `Condition.holds_of_extends`, `Block.applies_of_extends` — what matches an item goes on matching
* `Filter.line_verdict_le_of_extends` — the match of an item moves up, if it moves
-/

namespace LootFilter

namespace Item

/-- What is known of `i` is known of `j` as well, with the same value. A blank base type is not
known. -/
structure Extends (j i : Item) : Prop where
  baseType : i.hasBaseType = true → j.baseType = i.baseType
  itemClass : ∀ t, i.itemClass = some t → j.itemClass = some t
  rarity : ∀ t, i.rarity = some t → j.rarity = some t
  numbers : ∀ p n, i.numbers p = some n → j.numbers p = some n

variable {i j : Item}

theorem Extends.refl (i : Item) : i.Extends i :=
  ⟨fun _ => rfl, fun _ => id, fun _ => id, fun _ _ => id⟩

/-- A number that was unknown can be added. -/
theorem Extends.withNumber (h : j.Extends i) {p : NumberProperty} (hp : i.numbers p = none)
    (n : UInt32) : (j.withNumber p n).Extends i where
  baseType := h.baseType
  itemClass := h.itemClass
  rarity := h.rarity
  numbers := by
    intro q m hq
    have hne : q ≠ p := by
      rintro rfl
      rw [hp] at hq
      exact absurd hq (by simp)
    rw [withNumber_numbers_of_ne _ hne]
    exact h.numbers q m hq

theorem Extends.hasBaseType (h : j.Extends i) (hi : i.hasBaseType = true) :
    j.hasBaseType = true := by
  rw [Item.hasBaseType, h.baseType hi]
  exact hi

theorem Extends.text? (h : j.Extends i) {p : TextProperty} {t : Text} (ht : i.text? p = some t) :
    j.text? p = some t := by
  cases p with
  | itemClass => exact h.itemClass t ht
  | rarity => exact h.rarity t ht
  | baseType =>
    simp only [Item.text?] at ht ⊢
    -- a blank base type has no value, so there is none to keep
    split at ht
    next hi => rw [if_pos (h.hasBaseType hi), h.baseType hi, ht]
    next => exact absurd ht (by simp)

theorem Extends.number? (h : j.Extends i) {p : NumberProperty} {n : Nat}
    (hn : i.number? p = some n) : j.number? p = some n := by
  obtain ⟨m, hm, rfl⟩ := Option.map_eq_some_iff.1 hn
  rw [Item.number?, h.numbers p m hm]
  rfl

theorem Extends.isStackableCurrency (h : j.Extends i) {t : Text} (ht : i.itemClass = some t) :
    j.isStackableCurrency = i.isStackableCurrency := by
  rw [Item.isStackableCurrency, Item.isStackableCurrency, h.itemClass t ht, ht]

end Item

variable {i j : Item}

namespace Condition

theorem matchesText_of_extends (h : j.Extends i) {p : TextProperty} {v : Value}
    (hi : matchesText p v i = true) : matchesText p v j = true := by
  cases ht : i.text? p with
  | none => simp [matchesText, ht] at hi
  | some actual =>
    -- only a class can be compared as a currency, and the class is known
    have hcurrency : p = .itemClass → j.isStackableCurrency = i.isStackableCurrency := by
      rintro rfl
      exact h.isStackableCurrency ht
    have hsame : (p = .itemClass ∧ j.isStackableCurrency = true) ↔
        (p = .itemClass ∧ i.isStackableCurrency = true) :=
      and_congr_right fun hp => by rw [hcurrency hp]
    simp only [matchesText, ht] at hi
    simp only [matchesText, h.text? ht, hsame]
    exact hi

theorem matchesNumber_of_extends (h : j.Extends i) {p : NumberProperty} {o : Operator} {v : Value}
    (hi : matchesNumber p o v i = true) : matchesNumber p o v j = true := by
  cases hn : i.number? p with
  | none => simp [matchesNumber, hn] at hi
  | some actual =>
    simp only [matchesNumber, hn] at hi
    simp only [matchesNumber, h.number? hn]
    exact hi

/-- A condition that holds for an item goes on to hold. -/
theorem holds_of_extends (h : j.Extends i) {c : Condition} (hi : c.holds i = true) :
    c.holds j = true := by
  obtain ⟨property, operator, value⟩ := c
  cases property with
  | text p => exact matchesText_of_extends h hi
  | number p => exact matchesNumber_of_extends h hi

end Condition

theorem Block.applies_of_extends (h : j.Extends i) {b : Block} (hi : b.applies i = true) :
    b.applies j = true := by
  rw [applies_iff] at hi ⊢
  intro c hc
  exact c.holds_of_extends h (hi c hc)

namespace Filter

/-- **Knowing more moves the match up.** Let all that is known of an item be known of a second one.
Then each condition and each block that matches the first item matches the second, and if the first
item is matched at a line, the second is matched at this line or above it. -/
theorem line_verdict_le_of_extends (filter : Text) (h : j.Extends i) :
    (∀ c : Condition, c.holds i = true → c.holds j = true) ∧
      (∀ b : Block, b.applies i = true → b.applies j = true) ∧
      ∀ n, (verdict filter i).line = some n → ∃ m ≤ n, (verdict filter j).line = some m := by
  refine ⟨fun c => c.holds_of_extends h, fun b => b.applies_of_extends h, ?_⟩
  intro n hn
  rcases verdict_cases filter i with ⟨hbase, b, hb, hverdict⟩ | ⟨-, hverdict⟩
  · rw [hverdict] at hn
    obtain rfl : b.line = n := Option.some.inj hn
    have happlies : b.applies j = true := b.applies_of_extends h (Block.applies_iff.2 hb.holds)
    obtain ⟨b', hb', hle⟩ := exists_isFirstMatch_of_applies hb.mem happlies
    refine ⟨b'.line, hle, ?_⟩
    rw [line_verdict (h.hasBaseType hbase), firstMatch?_eq_some_iff.2 hb', Option.map_some]
  · rw [hverdict] at hn
    exact absurd hn (by simp)

/-- Small stacks of scrolls are hidden where better items drop, and scrolls are shown elsewhere. -/
def scrolls : Text :=
  "Hide\n\tAreaLevel >= 65\n\tStackSize < 3\nShow\n\tBaseType \"Scroll of Wisdom\"\n"

/-- Two scrolls, found in an unknown area. -/
def twoScrolls : Item := (Item.ofBaseType "Scroll of Wisdom").withNumber .stackSize 2

/-- Two scrolls are shown as long as the area is unknown, and hidden once its level is known to be
high. -/
theorem line_verdict_le_of_extends_scrolls :
    (twoScrolls.withNumber .areaLevel 70).Extends twoScrolls ∧
      (verdict scrolls twoScrolls).line = some 4 ∧
      (∃ m ≤ 4, (verdict scrolls (twoScrolls.withNumber .areaLevel 70)).line = some m) ∧
      (verdict scrolls (twoScrolls.withNumber .areaLevel 70)).isHidden = true := by
  have hextends : (twoScrolls.withNumber .areaLevel 70).Extends twoScrolls :=
    (Item.Extends.refl twoScrolls).withNumber (by decide) 70
  have hline : (verdict scrolls twoScrolls).line = some 4 := by decide
  obtain ⟨-, -, hmatch⟩ := line_verdict_le_of_extends scrolls hextends
  exact ⟨hextends, hline, hmatch 4 hline, by decide⟩

end Filter

end LootFilter
