import LootFilter.Filter.Verdict
import LootFilter.Proofs.Text.Lowercase
import LootFilter.Proofs.Text.Words

/-!
# The names of stackable currency

Stackable currency answers to two names of its class. They are compared by folding the letters A to
Z, while all other texts are compared by their lower-case forms. An alternative that is accepted has
the lower-case form of one of the names. The converse fails for one character: spelled with the
Kelvin sign in place of the letter k, the name of the class still has the same lower-case form, but
the item is not recognised. So an item can fail a condition that the general comparison, applied to
the class of the item, would let it pass.

## Main results

* `Condition.namesCurrency_iff` — the alternatives that name stackable currency
* `Condition.holds_and_agreesWithAny_of_stackableCurrency` — when a condition on the class of
  stackable currency holds, and where the general comparison decides otherwise
-/

namespace LootFilter.Condition

variable {c : Condition} {i : Item} {alternatives : List Text} {a : Text}

theorem isAscii_and_lowercase_of_mem_currencyNames :
    ∀ name ∈ currencyNames, name.IsAscii ∧ name.lowercase = name := by
  decide

/-- The Kelvin sign is not blank, so it is not trimmed away. -/
theorem kelvinSign_mem_trim_iff : Text.kelvinSign ∈ Text.trim a ↔ Text.kelvinSign ∈ a :=
  ⟨Text.mem_of_mem_trim, fun h => Text.mem_trim_of_not_isBlank h (by decide)⟩

/-- Some alternative names stackable currency exactly if its lower-case form is one of the two names
and it is not spelled with the Kelvin sign. -/
theorem namesCurrency_iff :
    namesCurrency alternatives = true ↔
      ∃ a ∈ alternatives, (Text.trim a).lowercase ∈ currencyNames ∧ Text.kelvinSign ∉ a := by
  rw [namesCurrency, List.any_eq_true]
  refine exists_congr fun a => and_congr_right fun _ => ?_
  rw [List.any_eq_true, ← kelvinSign_mem_trim_iff]
  constructor
  · rintro ⟨name, hname, hsame⟩
    obtain ⟨hascii, hlower⟩ := isAscii_and_lowercase_of_mem_currencyNames name hname
    obtain ⟨hform, hkelvin⟩ := (Text.sameIgnoringAsciiCase_iff hascii).mp hsame
    rw [hform, hlower]
    exact ⟨hname, hkelvin⟩
  · rintro ⟨hname, hkelvin⟩
    obtain ⟨hascii, hlower⟩ := isAscii_and_lowercase_of_mem_currencyNames _ hname
    exact ⟨_, hname, (Text.sameIgnoringAsciiCase_iff hascii).mpr ⟨hlower.symm, hkelvin⟩⟩

/-- The general comparison accepts an alternative for the class of stackable currency exactly if its
lower-case form is the longer one of the two names. -/
theorem agreesWithAny_stackableCurrency_iff :
    agreesWithAny Item.stackableCurrency [a] = true ↔
      (Text.trim a).lowercase = "stackable currency" := by
  have hclass : (Text.trim Item.stackableCurrency).lowercase = "stackable currency" := by decide
  simp [agreesWithAny, hclass]

theorem holds_eq_namesCurrency (hclass : i.itemClass = some Item.stackableCurrency)
    (hproperty : c.property = .text .itemClass) :
    c.holds i = namesCurrency c.value.alternatives := by
  have hcurrency : i.isStackableCurrency = true := by simp [Item.isStackableCurrency, hclass]
  simp [holds, hproperty, matchesText, Item.text?, hclass, hcurrency]

/-- **Conditions on the class of stackable currency.** Such a condition holds exactly if the
lower-case form of some alternative is one of the two names of the class, and this alternative is
not spelled with the Kelvin sign. Of the alternatives that the general comparison accepts for the
class, those with the Kelvin sign are rejected, and no others. -/
theorem holds_and_agreesWithAny_of_stackableCurrency
    (hclass : i.itemClass = some Item.stackableCurrency)
    (hproperty : c.property = .text .itemClass) :
    (c.holds i = true ↔
      ∃ a ∈ c.value.alternatives,
        (Text.trim a).lowercase ∈ currencyNames ∧ Text.kelvinSign ∉ a) ∧
      ∀ a, agreesWithAny Item.stackableCurrency [a] = true →
        (namesCurrency [a] = false ↔ Text.kelvinSign ∈ a) := by
  rw [holds_eq_namesCurrency hclass hproperty]
  refine ⟨namesCurrency_iff, fun a hagrees => ?_⟩
  have hname : (Text.trim a).lowercase ∈ currencyNames := by
    rw [agreesWithAny_stackableCurrency_iff.mp hagrees]
    decide
  rw [← Bool.not_eq_true, namesCurrency_iff]
  simp [hname]

/-- An orb whose class is stackable currency. -/
def currencyOrb : Item := (Item.ofBaseType "Chaos Orb").withClass Item.stackableCurrency

/-- The name of the class, with the Kelvin sign in it. -/
def kelvinClass : Condition := ⟨.text .itemClass, .equal, .list ["Stac\u212aable Currency"]⟩

theorem holds_and_agreesWithAny_of_stackableCurrency_kelvinClass :
    currencyOrb.itemClass = some Item.stackableCurrency ∧
      kelvinClass.property = .text .itemClass ∧
      ofLine? "Class \"Stac\u212aable Currency\"" = some kelvinClass ∧
      kelvinClass.holds currencyOrb = false ∧
      agreesWithAny Item.stackableCurrency kelvinClass.value.alternatives = true := by
  obtain ⟨hholds, -⟩ :=
    holds_and_agreesWithAny_of_stackableCurrency (c := kelvinClass) (i := currencyOrb) rfl rfl
  refine ⟨rfl, rfl, by decide, ?_, by decide⟩
  rw [← Bool.not_eq_true, hholds]
  rintro ⟨a, ha, -, hkelvin⟩
  obtain rfl := List.mem_singleton.mp ha
  exact hkelvin (by decide)

/-- An alternative can have the lower-case form of a name and still be rejected. -/
theorem not_forall_holds_iff_lowercase_mem_currencyNames :
    ¬ ∀ (c : Condition) (i : Item), i.itemClass = some Item.stackableCurrency →
      c.property = .text .itemClass →
      (c.holds i = true ↔
        ∃ a ∈ c.value.alternatives, (Text.trim a).lowercase ∈ currencyNames) := by
  intro h
  have hholds : kelvinClass.holds currencyOrb = true :=
    (h kelvinClass currencyOrb rfl rfl).mpr
      ⟨"Stac\u212aable Currency", List.mem_singleton_self _, by decide⟩
  exact absurd hholds (by decide)

end LootFilter.Condition
