import LootFilter.Proofs.Report.CatchAll

/-!
# Conditions on numbers, checked and read

A condition on a number is an operator and a number. The check takes the number for an integer
literal and then asks that it is not negative; the evaluation asks for digits first and then reads
the number. Both refuse digits whose number is out of range: for the check they are no literal, and
the evaluation reads a value that matches nothing. They part on literals with a sign that are not
negative, such as `+5` and `-0`. The check has nothing to say about them, and the evaluation drops
the line.

## Main definitions

* `Check.HasSignedNumber` — arguments with a sign in front of a number that is not negative

## Main results

* `Check.numberProblems_eq_nil_iff` — the arguments that the check accepts
* `Check.lineProblems_eq_nil_iff_ofLine?_number` — where the two agree
-/

namespace LootFilter

/-- Digits alone stand for no negative number. -/
theorem Literal.nonneg_of_digits {digits : Text} {n : Int} (hne : digits ≠ [])
    (hdigits : digits.all (·.isDigit) = true) (h : integer? digits = some n) : 0 ≤ n := by
  rw [integer?_of_digits hne (List.all_eq_true.mp hdigits)] at h
  split_ifs at h
  obtain rfl := Option.some.inj h
  exact Int.natCast_nonneg _

namespace Check

variable {p : NumberProperty} {line rest : Text} {arguments : List Text}

/-- An operator, and a number from zero on with a sign in front. -/
def HasSignedNumber (arguments : List Text) : Prop :=
  ∃ o sign digits n, arguments = [Operator.symbol o, sign :: digits] ∧ (sign = '+' ∨ sign = '-') ∧
    Literal.integer? (sign :: digits) = some n ∧ 0 ≤ n

/-- The check accepts an operator and an integer literal from zero on, and nothing else. -/
theorem numberProblems_eq_nil_iff :
    numberProblems p rest = [] ↔
      ∃ o value n, Text.words rest = [Operator.symbol o, value] ∧
        Literal.integer? value = some n ∧ 0 ≤ n := by
  constructor
  · intro h
    refine number_of_noErrors (p := p) ?_
    rw [h]
    exact fun q hq => absurd hq List.not_mem_nil
  · rintro ⟨o, value, n, hwords, hnumber, hn⟩
    simp [numberProblems, operandProblems, hwords, Operator.ofSymbol?_symbol, hnumber, hn]

/-- The evaluation reads no number with a sign. -/
theorem HasSignedNumber.ofNumberRest?_eq_none (h : HasSignedNumber (Text.words rest)) :
    Condition.ofNumberRest? p rest = none := by
  rw [Option.eq_none_iff_forall_ne_some]
  intro c hc
  obtain ⟨o, digits, hwords, hdigits, -⟩ := Condition.ofNumberRest?_eq_some_iff.mp hc
  obtain ⟨o', sign, digits', n, hsigned, hsign, -, -⟩ := h
  rw [hwords] at hsigned
  obtain ⟨-, rfl⟩ : o.symbol = o'.symbol ∧ digits = sign :: digits' := by simpa using hsigned
  -- a sign is no digit
  rcases hsign with rfl | rfl <;> exact absurd hdigits (by simp)

/-- The check accepts exactly the arguments that the evaluation reads as a number, and those with a
sign in front of a number. -/
theorem numberProblems_eq_nil_iff_ofNumberRest? :
    numberProblems p rest = [] ↔
      (∃ o n, Condition.ofNumberRest? p rest = some ⟨.number p, o, .number n⟩) ∨
        HasSignedNumber (Text.words rest) := by
  rw [numberProblems_eq_nil_iff]
  constructor
  · rintro ⟨o, value, n, hwords, hnumber, hn⟩
    rcases Literal.isDigit_or_sign_of_integer? hnumber with hdigits | ⟨sign, digits, rfl, hsign⟩
    · have hvalue := Value.ofDigits_eq_number_iff.mpr hnumber
      refine Or.inl ⟨o, n, Condition.ofNumberRest?_eq_some_iff.mpr ⟨o, value, hwords, hdigits, ?_⟩⟩
      rw [hvalue]
    · exact Or.inr ⟨o, sign, digits, n, hwords, hsign, hnumber, hn⟩
  · rintro (⟨o, n, hread⟩ | hsigned)
    · obtain ⟨o', digits, hwords, hdigits, heq⟩ := Condition.ofNumberRest?_eq_some_iff.mp hread
      simp only [Condition.mk.injEq] at heq
      have hnumber := Value.ofDigits_eq_number_iff.mp heq.2.2.symm
      -- the digits are a word, so there is at least one
      have hne : digits ≠ [] := Text.ne_nil_of_mem_words (t := rest) (by simp [hwords])
      exact ⟨o', digits, n, hwords, hnumber, Literal.nonneg_of_digits hne hdigits hnumber⟩
    · obtain ⟨o, sign, digits, n, hwords, -, hnumber, hn⟩ := hsigned
      exact ⟨o, sign :: digits, n, hwords, hnumber, hn⟩

/-- **Conditions on numbers.** A line whose first word names a number property is accepted by the
check exactly if the evaluation reads it as a condition with a number, or if its number has a sign
and is not negative. Lines of the second kind are dropped by the evaluation. -/
theorem lineProblems_eq_nil_iff_ofLine?_number
    (hwords : Text.words line = p.keyword :: arguments) :
    (lineProblems line = [] ↔
      (∃ o n, Condition.ofLine? line = some ⟨.number p, o, .number n⟩) ∨
        HasSignedNumber arguments) ∧
      (HasSignedNumber arguments → Condition.ofLine? line = none) := by
  obtain ⟨rest, hfirst, rfl, hproblems⟩ := lineProblems_of_words hwords
  have hchecked : lineProblems line = numberProblems p rest :=
    hproblems.trans (keywordProblems_property (.number p) rest)
  have hread : Condition.ofLine? line = Condition.ofNumberRest? p rest := by
    have hkeyword : Property.ofKeyword? p.keyword = some (.number p) :=
      Property.ofKeyword?_keyword (.number p)
    simp only [Condition.ofLine?, hfirst, hkeyword]
  rw [hchecked, hread]
  exact ⟨numberProblems_eq_nil_iff_ofNumberRest?, HasSignedNumber.ofNumberRest?_eq_none⟩

theorem lineProblems_eq_nil_iff_ofLine?_number_signed :
    Text.words "AreaLevel >= +5" = NumberProperty.areaLevel.keyword :: [">=", "+5"] ∧
      lineProblems "AreaLevel >= +5" = [] ∧ Condition.ofLine? "AreaLevel >= +5" = none := by
  have hwords : Text.words "AreaLevel >= +5" =
      NumberProperty.areaLevel.keyword :: [">=", "+5"] := by
    decide
  have hsigned : HasSignedNumber [">=", "+5"] :=
    ⟨.greaterOrEqual, '+', "5", 5, rfl, Or.inl rfl, by decide, by decide⟩
  obtain ⟨haccepted, hdropped⟩ := lineProblems_eq_nil_iff_ofLine?_number hwords
  exact ⟨hwords, haccepted.mpr (Or.inr hsigned), hdropped hsigned⟩

/-- The check can accept a condition on a number that the evaluation does not read. -/
theorem not_forall_lineProblems_eq_nil_iff_ofLine?_number :
    ¬ ∀ (line : Text) (p : NumberProperty) (arguments : List Text), '#' ∉ line →
      Text.words line = p.keyword :: arguments →
      (lineProblems line = [] ↔
        ∃ o n, Condition.ofLine? line = some ⟨.number p, o, .number n⟩) := by
  intro h
  obtain ⟨o, n, hread⟩ := (h "AreaLevel >= +5" .areaLevel [">=", "+5"] (by decide) (by decide)).mp
    (by decide)
  have hdropped : Condition.ofLine? "AreaLevel >= +5" = none := by decide
  rw [hdropped] at hread
  exact absurd hread (by simp)

end Check

end LootFilter
