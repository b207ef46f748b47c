import LootFilter.Proofs.Condition.Display

/-!
# Comparisons of numbers

A line that compares a number property with digits means what it says, however long the digits are.
Zeros in front change nothing. If the number fits into a signed word, the line holds exactly for the
items of which the number is known and compares with it as the operator says. If it does not fit,
the line is still a condition, and no item meets it: the number is not cut to fit.

The numbers of an item take 32 bits, and they are compared as integers.

## Main definitions

* `Operator.Compares` — what an operator says of two integers
* `Condition.comparisonLine` — a number property, an operator and digits in a line

## Main results

* `Operator.holds_iff_compares`, `Operator.existsUnique_holds` — operators compare integers
* `Condition.holds_ofDigits_iff` — the items that meet a condition on a number
* `Condition.holds_comparisonLine_iff` — the items that meet a line
-/

namespace LootFilter

namespace Operator

/-- What an operator says of an actual and an expected integer. -/
def Compares (o : Operator) (actual expected : Int) : Prop :=
  match o with
  | .assign | .equal => actual = expected
  | .greater => actual > expected
  | .less => actual < expected
  | .greaterOrEqual => actual ≥ expected
  | .lessOrEqual => actual ≤ expected

variable {o o' : Operator} {a b : Int}

theorem holds_iff_compares : o.holds a b = true ↔ o.Compares a b := by
  cases o <;> simp [holds, Compares]

instance : Decidable (o.Compares a b) :=
  decidable_of_iff _ holds_iff_compares

/-- Of less, equal and greater no two hold. -/
theorem eq_of_compares (ho : o ∈ [less, equal, greater]) (ho' : o' ∈ [less, equal, greater])
    (h : o.Compares a b) (h' : o'.Compares a b) : o = o' := by
  simp only [List.mem_cons, List.not_mem_nil, or_false] at ho ho'
  rcases ho with rfl | rfl | rfl <;> rcases ho' with rfl | rfl | rfl <;>
    simp only [Compares, reduceCtorEq] at h h' ⊢ <;> omega

/-- Of less, equal and greater exactly one holds. -/
theorem existsUnique_holds (a b : Int) :
    ∃! o, o ∈ [less, equal, greater] ∧ o.holds a b = true := by
  simp only [holds_iff_compares]
  obtain ⟨o, ho, h⟩ : ∃ o ∈ [less, equal, greater], o.Compares a b := by
    rcases Int.lt_trichotomy a b with hless | hequal | hgreater
    · exact ⟨less, by simp, hless⟩
    · exact ⟨equal, by simp, hequal⟩
    · exact ⟨greater, by simp, hgreater⟩
  exact ⟨o, ⟨ho, h⟩, fun o' ⟨ho', h'⟩ => eq_of_compares ho' ho h' h⟩

end Operator

namespace Condition

variable {digits : Text} {i : Item}

/-- A line that compares a number property with digits. -/
def comparisonLine (p : NumberProperty) (o : Operator) (digits : Text) : Text :=
  p.keyword ++ " " ++ o.symbol ++ " " ++ digits

/-- A line that compares a number property with digits stands for that comparison. -/
theorem ofLine?_comparisonLine (p : NumberProperty) (o : Operator) (hne : digits ≠ [])
    (hdigits : ∀ c ∈ digits, c.isDigit = true) :
    ofLine? (comparisonLine p o digits) = some ⟨.number p, o, Value.ofDigits digits⟩ := by
  have hblank : ∀ c ∈ digits, isBlank c = false := fun c hc => isBlank_of_isDigit (hdigits c hc)
  have hwords : Text.words (comparisonLine p o digits) = [p.keyword, o.symbol, digits] := by
    have h := words_keyword_append_symbol_append (.number p) o digits
    rwa [Text.words_of_forall_not_isBlank hblank hne] at h
  exact ofLine?_of_words_number hwords hdigits

/-- A comparison with digits holds for the items whose number compares with the one that the digits
write, if that fits into a signed word. -/
theorem holds_ofDigits_iff (p : NumberProperty) (o : Operator) (hne : digits ≠ [])
    (hdigits : ∀ c ∈ digits, c.isDigit = true) :
    holds ⟨.number p, o, Value.ofDigits digits⟩ i = true ↔
      ∃ a, i.numbers p = some a ∧ Nat.ofDigitChars 10 digits 0 < 0x8000000000000000 ∧
        o.Compares a.toNat (Nat.ofDigitChars 10 digits 0) := by
  rw [Value.ofDigits_of_digits hne hdigits, holds]
  cases hn : i.numbers p with
  | none => simp [matchesNumber, Item.number?, hn]
  | some a =>
    split_ifs with hle
    · simp [matchesNumber, Item.number?, hn, hle, Operator.holds_iff_compares]
    · simp [matchesNumber, Item.number?, hn, hle]

/-- **Comparisons of numbers.** A number property, an operator and digits in a line are a condition
that holds for an item exactly if the number is known of the item, the number that the digits write
fits into a signed word, and the two compare as integers in the way of the operator. If the number
is known and the other one fits, exactly one of less, equal and greater holds, at least is the
opposite of less, and at most is the opposite of greater. -/
theorem holds_comparisonLine_iff (p : NumberProperty) (hne : digits ≠ [])
    (hdigits : ∀ c ∈ digits, c.isDigit = true) (i : Item) :
    ∃ c : Operator → Condition,
      (∀ o, ofLine? (comparisonLine p o digits) = some (c o)) ∧
      (∀ o, (c o).holds i = true ↔
        ∃ a, i.numbers p = some a ∧ Nat.ofDigitChars 10 digits 0 < 0x8000000000000000 ∧
          o.Compares a.toNat (Nat.ofDigitChars 10 digits 0)) ∧
      (Nat.ofDigitChars 10 digits 0 < 0x8000000000000000 → (i.numbers p).isSome = true →
        (∃! o, o ∈ [.less, .equal, .greater] ∧ (c o).holds i = true) ∧
          (c .greaterOrEqual).holds i = !(c .less).holds i ∧
          (c .lessOrEqual).holds i = !(c .greater).holds i) := by
  refine ⟨fun o => ⟨.number p, o, Value.ofDigits digits⟩, ?_, ?_, ?_⟩
  · exact fun o => ofLine?_comparisonLine p o hne hdigits
  · exact fun o => holds_ofDigits_iff p o hne hdigits
  · intro hle hknown
    obtain ⟨a, ha⟩ := Option.isSome_iff_exists.1 hknown
    have hholds : ∀ o, holds ⟨.number p, o, Value.ofDigits digits⟩ i =
        o.holds a.toNat (Nat.ofDigitChars 10 digits 0) := by
      intro o
      rw [Bool.eq_iff_iff, holds_ofDigits_iff p o hne hdigits, Operator.holds_iff_compares]
      simp [ha, hle]
    simp only [hholds]
    exact ⟨Operator.existsUnique_holds _ _, Operator.holds_greaterOrEqual _ _,
      Operator.holds_lessOrEqual _ _⟩

/-- The greatest signed word, with zeros in front. -/
def greatestWord : Text := "0009223372036854775807"

/-- A stack of the greatest size that an item can have. -/
def greatestStack : Item := (Item.ofBaseType "Chaos Orb").withNumber .stackSize 0xFFFFFFFF

/-- The greatest stack is smaller than the greatest signed word, and it is nothing else. -/
theorem holds_comparisonLine_iff_greatestWord :
    greatestWord ≠ [] ∧ (∀ c ∈ greatestWord, c.isDigit = true) ∧
      (∃ c, ofLine? "StackSize < 0009223372036854775807" = some c ∧ c.holds greatestStack = true) ∧
      ∃ c, ofLine? "StackSize >= 0009223372036854775807" = some c ∧
        c.holds greatestStack = false := by
  have hne : greatestWord ≠ [] := by decide
  have hdigits : ∀ c ∈ greatestWord, c.isDigit = true := List.all_eq_true.1 (by decide)
  have hvalue : Nat.ofDigitChars 10 greatestWord 0 = 0x7FFFFFFFFFFFFFFF := by decide
  have hfits : Nat.ofDigitChars 10 greatestWord 0 < 0x8000000000000000 := by omega
  obtain ⟨c, hread, hholds, hcompare⟩ :=
    holds_comparisonLine_iff .stackSize hne hdigits greatestStack
  have hless : (c .less).holds greatestStack = true := by
    refine (hholds .less).2 ⟨0xFFFFFFFF, rfl, hfits, ?_⟩
    rw [hvalue]
    decide
  obtain ⟨-, hgreaterOrEqual, -⟩ := hcompare hfits rfl
  rw [hless] at hgreaterOrEqual
  exact ⟨hne, hdigits, ⟨_, hread .less, hless⟩, ⟨_, hread .greaterOrEqual, hgreaterOrEqual⟩⟩

/-- One more is too great for a signed word, and then the digits are kept as they are. -/
example : ofLine? "StackSize < 9223372036854775808" =
    some ⟨.number .stackSize, .less, .malformed "9223372036854775808"⟩ := by
  decide

end Condition

end LootFilter
