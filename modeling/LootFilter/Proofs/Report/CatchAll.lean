import LootFilter.Filter.Verdict
import LootFilter.Proofs.Condition.Grammar
import LootFilter.Proofs.Report.Findings

/-!
# Catch-all blocks in filters without errors

A block without conditions matches every item, and the check reports each block none of whose lines
begins like a condition. The evaluation asks more of a condition than how it begins. Two kinds of
lines pass the check and stand for no condition: a text property without a value, and a number with
a sign in front. A filter in which the check finds no error can therefore still have a block that
matches every item, and it has one exactly where all condition lines of a block are of these kinds.

## Main definitions

* `Line.IsOverlooked` — the lines that pass the check and stand for no condition

## Main results

* `Block.isCatchAll_iff_applies` — the blocks that match every item
* `Check.ofLine?_eq_none_iff_of_noErrors` — which lines without errors stand for no condition
* `Filter.isCatchAll_iff_isOverlooked_of_isValid` — the catch-all blocks of a filter without errors
-/

namespace LootFilter

/-! ### Blocks that match every item -/

namespace Text

/-- Some name is not among given lower-case texts: one that is longer than all of them. -/
theorem exists_lowercase_notMem (ts : List Text) :
    ∃ name : Text, name.isBlankText = false ∧ (trim name).lowercase ∉ ts := by
  let name : Text := List.replicate (ts.flatten.length + 1) 'a'
  have hname : ∀ c ∈ name, c = 'a' := fun c hc => List.eq_of_mem_replicate hc
  have htrim : trim name = name := by
    refine trim_of_forall_not_isBlank fun c hc => ?_
    rw [hname c hc]
    decide
  have hascii : ∀ c ∈ name, c.toNat < 0x80 := by
    intro c hc
    rw [hname c hc]
    decide
  refine ⟨name, rfl, fun hmem => ?_⟩
  have hlength := (List.sublist_flatten_of_mem hmem).length_le
  rw [htrim, lowercase_of_ascii hascii, List.length_map, List.length_replicate] at hlength
  omega

end Text

/-- Each condition fails for some item with a base type. -/
theorem Condition.exists_not_holds (c : Condition) :
    ∃ i : Item, i.hasBaseType = true ∧ c.holds i = false := by
  obtain ⟨property, operator, value⟩ := c
  rcases property with (_ | _ | _) | p
  · exact ⟨.ofBaseType "a", by decide, rfl⟩
  · obtain ⟨name, hname, hother⟩ := Text.exists_lowercase_notMem
      (value.alternatives.map fun a => (Text.trim a).lowercase)
    have hbase : (Item.ofBaseType name).hasBaseType = true := by
      rw [Item.hasBaseType, Item.ofBaseType, hname]
      rfl
    have htext : (Item.ofBaseType name).text? .baseType = some name := by
      rw [Item.text?, hbase]
      rfl
    have hagrees : agreesWithAny name value.alternatives = false := by
      rw [agreesWithAny, List.any_eq_false]
      intro a ha heq
      exact hother (List.mem_map.2 ⟨a, ha, by simpa using heq⟩)
    refine ⟨.ofBaseType name, hbase, ?_⟩
    simpa [holds, matchesText, htext] using hagrees
  · exact ⟨.ofBaseType "a", by decide, rfl⟩
  · exact ⟨.ofBaseType "a", by decide, rfl⟩

/-- A block has no conditions exactly if it matches every item with a base type. -/
theorem Block.isCatchAll_iff_applies (b : Block) :
    b.isCatchAll = true ↔ ∀ i : Item, i.hasBaseType = true → b.applies i = true := by
  rw [isCatchAll, List.isEmpty_iff]
  constructor
  · intro h i _
    rw [applies, h]
    rfl
  · intro h
    by_contra hne
    obtain ⟨c, hc⟩ := List.exists_mem_of_ne_nil _ hne
    obtain ⟨i, hi, hfails⟩ := c.exists_not_holds
    have hholds := List.all_eq_true.1 (h i hi) c hc
    simp [hfails] at hholds

/-! ### Lines that stand for no condition -/

/-- The lines that pass the check and stand for no condition. -/
inductive Line.IsOverlooked (line : Text) : Prop
  /-- A property compared as a text has no value. -/
  | withoutValue (p : TextProperty) (h : Text.words line = [p.keyword])
  /-- A property compared as a number has a number with a sign. -/
  | signed (p : NumberProperty) (o : Operator) (sign : Char) (digits : Text)
      (hsign : sign = '+' ∨ sign = '-')
      (h : Text.words line = [p.keyword, o.symbol, sign :: digits])

/-- An integer literal has a sign in front, or else it consists of digits. -/
theorem Literal.isDigit_or_sign_of_integer? {t : Text} {n : Int} (h : integer? t = some n) :
    t.all (·.isDigit) = true ∨
      ∃ sign digits, t = sign :: digits ∧ (sign = '+' ∨ sign = '-') := by
  cases integer?_eq_some_iff.mp h with
  | bare hdecimal => exact Or.inl (List.all_eq_true.mpr hdecimal.isDigit)
  | plus => exact Or.inr ⟨'+', _, rfl, Or.inl rfl⟩
  | minus => exact Or.inr ⟨'-', _, rfl, Or.inr rfl⟩

namespace Check

variable {line : Text} {arguments : List Text}

/-- A line that begins like a condition and has no error stands for no condition exactly if it is
overlooked. -/
theorem ofLine?_eq_none_iff_of_noErrors {p : Property}
    (hwords : Text.words line = p.keyword :: arguments) (h : NoErrors (lineProblems line)) :
    Condition.ofLine? line = none ↔ Line.IsOverlooked line := by
  obtain ⟨rest, hfirst, hrest, hproblems⟩ := lineProblems_of_words hwords
  rw [hproblems, keywordProblems_property] at h
  cases p with
  | text p =>
    have hread : Condition.ofLine? line = Condition.ofTextRest? p rest := by
      simp only [Condition.ofLine?, hfirst, Property.ofKeyword?_keyword]
    rw [hread, Condition.ofTextRest?_eq_none_iff, hrest]
    constructor
    · rintro rfl
      exact .withoutValue p hwords
    · rintro (⟨q, hq⟩ | ⟨q, o, sign, digits, -, hq⟩)
      · rw [hwords] at hq
        exact (List.cons.inj hq).2
      · rw [hwords] at hq
        -- no keyword names both a text and a number
        have hkeyword : (Property.text p).keyword = (Property.number q).keyword :=
          (List.cons.inj hq).1
        cases Property.keyword_injective hkeyword
  | number p =>
    obtain ⟨o, value, n, hvalue, hn, -⟩ := number_of_noErrors h
    have hread : Condition.ofLine? line =
        if value.all (·.isDigit) then some ⟨.number p, o, Value.ofDigits value⟩ else none := by
      simp only [Condition.ofLine?, hfirst, Property.ofKeyword?_keyword, Condition.ofNumberRest?,
        hvalue, Operator.ofSymbol?_symbol]
    rw [hvalue] at hrest
    rw [← hrest] at hwords
    rw [hread]
    constructor
    · intro hnone
      -- the check takes integer literals here, and the evaluation takes digits
      rcases Literal.isDigit_or_sign_of_integer? hn with hdigits | ⟨sign, digits, rfl, hsign⟩
      · rw [if_pos hdigits] at hnone
        exact absurd hnone (Option.some_ne_none _)
      · exact .signed p o sign digits hsign hwords
    · rintro (⟨q, hq⟩ | ⟨q, o', sign, digits, hsign, hq⟩)
      · rw [hwords] at hq
        exact absurd (List.cons.inj hq).2 (List.cons_ne_nil _ _)
      · rw [hwords] at hq
        obtain rfl : value = sign :: digits := by simp_all
        rcases hsign with rfl | rfl <;> rfl

/-- A line without errors stands for no condition exactly if it is overlooked or begins like
something else. -/
theorem condition?_eq_none_iff_of_noErrors {raw : Text}
    (h : NoErrors (lineProblems (Text.withoutComment raw))) :
    Line.condition? raw = none ↔
      (Line.beginsCondition raw = true → Line.IsOverlooked (Text.withoutComment raw)) := by
  rw [Line.condition?_eq, Line.beginsCondition]
  cases hwords : Text.words (Text.withoutComment raw) with
  | nil => simp [Condition.ofLine?, Text.firstWord?_eq_none_iff.2 hwords]
  | cons keyword arguments =>
    cases hkeyword : Property.ofKeyword? keyword with
    | none =>
      obtain ⟨rest, hfirst, -⟩ := Text.exists_firstWord? hwords
      simp [Condition.ofLine?, hfirst, hkeyword]
    | some p =>
      obtain rfl := Property.ofKeyword?_eq_some_iff.1 hkeyword
      simpa [hkeyword] using ofLine?_eq_none_iff_of_noErrors hwords h

end Check

namespace Filter

variable {filter : Text} {b : Block}

/-- **Catch-all blocks of a filter without errors.** Each block has a line that begins like a
condition, and the block is a catch-all exactly if all such lines are overlooked. The catch-all
blocks are those that match every item with a base type. -/
theorem isCatchAll_iff_isOverlooked_of_isValid (h : (check filter).isValid = true)
    (hb : b ∈ blocks filter) :
    (∃ raw ∈ body filter b, Line.beginsCondition raw = true) ∧
      (b.isCatchAll = true ↔ ∀ raw ∈ body filter b, Line.beginsCondition raw = true →
        Line.IsOverlooked (Text.withoutComment raw)) ∧
      (b.isCatchAll = true ↔ ∀ i : Item, i.hasBaseType = true → b.applies i = true) := by
  refine ⟨exists_beginsCondition_of_isValid h hb, ?_, b.isCatchAll_iff_applies⟩
  rw [Block.isCatchAll, List.isEmpty_iff, conditions_eq hb, List.filterMap_eq_nil_iff]
  refine forall₂_congr fun raw hraw => ?_
  obtain ⟨hmem, hheader⟩ := of_mem_body hraw
  exact Check.condition?_eq_none_iff_of_noErrors (noErrors_of_isValid h hmem hheader)

/-- A level with a sign and a base type without a name leave a block that matches everything. -/
theorem isCatchAll_signed_level :
    (check "Show\n\tAreaLevel >= +5\n\tBaseType\n").isValid = true ∧
      ∃ b ∈ blocks "Show\n\tAreaLevel >= +5\n\tBaseType\n",
        ∀ i : Item, i.hasBaseType = true → b.applies i = true := by
  have hvalid : (check "Show\n\tAreaLevel >= +5\n\tBaseType\n").isValid = true := by decide
  let b : Block := { line := 1, visibility := .shown }
  have hb : b ∈ blocks "Show\n\tAreaLevel >= +5\n\tBaseType\n" := by decide
  obtain ⟨-, hoverlooked, happlies⟩ := isCatchAll_iff_isOverlooked_of_isValid hvalid hb
  have hbody : body "Show\n\tAreaLevel >= +5\n\tBaseType\n" b =
      [("\tAreaLevel >= +5" : Text), ("\tBaseType" : Text)] := by
    decide
  refine ⟨hvalid, b, hb, happlies.1 (hoverlooked.2 fun raw hraw _ => ?_)⟩
  simp only [hbody, List.mem_cons, List.not_mem_nil, or_false] at hraw
  rcases hraw with rfl | rfl
  · exact .signed .areaLevel .greaterOrEqual '+' "5" (Or.inl rfl) (by decide)
  · exact .withoutValue .baseType (by decide)

/-- Filters without errors can have catch-all blocks. -/
theorem not_forall_isCatchAll_eq_false_of_isValid :
    ¬ ∀ filter : Text, (check filter).isValid = true →
      ∀ b ∈ blocks filter, b.isCatchAll = false := by
  intro h
  have hvalid : (check "Show\n    AreaLevel >= +5\n").isValid = true := by decide
  have hb : ({ line := 1, visibility := .shown } : Block) ∈
      blocks "Show\n    AreaLevel >= +5\n" := by
    decide
  exact absurd (h _ hvalid _ hb) (by decide)

end Filter

end LootFilter
