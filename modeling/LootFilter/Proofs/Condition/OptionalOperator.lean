import LootFilter.Proofs.Condition.Display

/-!
# Operators in front of names

A condition on a text may have an operator, and the operator has no influence: such conditions only
ask whether a name agrees. This is a statement about lines, not only about conditions. What is
written behind the operator is read for itself, even if it looks like an operator again, and it is
the same value for all six of them.

Without an operator the same value is read, with one exception. If what is written begins with the
symbol of an operator and has more words behind it, the symbol is split off.

## Main definitions

* `Condition.operatorLine`, `Condition.bareLine` — a value behind an operator, or behind the keyword
* `Condition.BeginsWithOperator` — a text that is taken for an operator and a value

## Main results

* `Value.ofText?_trim` — blanks around a value are no part of it
* `Condition.splitOperator_of_not_beginsWithOperator` — where no operator is split off
* `Condition.ofLine?_operatorLine_and_bareLine` — the conditions with and without an operator
-/

namespace LootFilter

/-- Blanks around a text are no part of the value that it stands for. -/
@[simp] theorem Value.ofText?_trim (t : Text) : ofText? (Text.trim t) = ofText? t := by
  have hblank : (Text.trim t).isBlankText = t.isBlankText := by
    rw [Bool.eq_iff_iff, Text.isBlankText_iff, Text.isBlankText_iff, Text.trim_trim]
  rw [ofText?, ofText?, hblank, Text.quotedSegments_trim, Text.words_trim]

namespace Condition

variable {p : TextProperty} {o : Operator} {rest t : Text}

/-- A text property, an operator and a value in a line. -/
def operatorLine (p : TextProperty) (o : Operator) (t : Text) : Text :=
  p.keyword ++ " " ++ o.symbol ++ " " ++ t

/-- A text property and a value in a line. -/
def bareLine (p : TextProperty) (t : Text) : Text := p.keyword ++ " " ++ t

/-- The first word of a text is the symbol of an operator, and it has another word behind it. -/
def BeginsWithOperator (t : Text) : Prop :=
  ∃ o name names, Text.words t = Operator.symbol o :: name :: names

/-! ### Splitting off the operator -/

/-- Blanks around a text have no part in splitting off an operator. -/
theorem splitOperator_trim (rest : Text) :
    splitOperator (Text.trim rest) =
      ((splitOperator rest).1, Text.trim (splitOperator rest).2) := by
  unfold splitOperator
  rw [Text.firstWord?_trim]
  cases hfirst : Text.firstWord? rest with
  | none => rfl
  | some pair =>
    obtain ⟨word, remainder⟩ := pair
    dsimp only
    cases Operator.ofSymbol? word with
    | none => rfl
    | some o =>
      by_cases hempty : remainder.isEmpty = true
      · simp [hempty]
      · simp [hempty, Text.trim_of_firstWord? hfirst]

theorem ofTextRest?_trim (p : TextProperty) (rest : Text) :
    ofTextRest? p (Text.trim rest) = ofTextRest? p rest := by
  simp only [ofTextRest?, splitOperator_trim, Value.ofText?_trim]

/-- No operator is split off a text that does not begin with one, or that has nothing behind it. -/
theorem splitOperator_of_not_beginsWithOperator (h : ¬ BeginsWithOperator t) :
    splitOperator t = (none, t) := by
  unfold splitOperator
  split
  · rfl
  next word remainder hfirst =>
    split
    next o hsymbol =>
      obtain rfl := Operator.ofSymbol?_eq_some_iff.1 hsymbol
      split_ifs with hempty
      · rfl
      · -- what is left behind the symbol is not blank, so it has a word
        refine absurd ?_ h
        cases hwords : Text.words remainder with
        | nil => exact absurd (List.isEmpty_iff.2 (Text.eq_nil_of_firstWord? hfirst hwords)) hempty
        | cons name names =>
          exact ⟨o, name, names, by rw [Text.words_of_firstWord? hfirst, hwords]⟩
    next => rfl

/-! ### Lines -/

/-- What stands behind the keyword of a text property is read for itself. -/
theorem ofLine?_keyword_append (p : TextProperty) (rest : Text) :
    ofLine? (p.keyword ++ ' ' :: rest) = ofTextRest? p rest := by
  have hfirst : Text.firstWord? (p.keyword ++ ' ' :: rest) = some (p.keyword, Text.trim rest) :=
    Text.firstWord?_append_space (isBlank_of_mem_keyword (p := .text p)) (keyword_ne_nil (.text p))
      rest
  rw [ofLine?_text hfirst, ofTextRest?_trim]

/-- The value behind an operator is read for itself, too. -/
theorem ofLine?_operatorLine (p : TextProperty) (o : Operator) (h : t.isBlankText = false) :
    ofLine? (operatorLine p o t) = (Value.ofText? t).map fun v => ⟨.text p, o, v⟩ := by
  have hline : operatorLine p o t = p.keyword ++ ' ' :: (o.symbol ++ ' ' :: t) :=
    keyword_append_symbol_append (.text p) o t
  rw [hline, ofLine?_keyword_append, ofTextRest?, splitOperator_symbol o h]
  simp

theorem ofLine?_bareLine (p : TextProperty) (h : ¬ BeginsWithOperator t) :
    ofLine? (bareLine p t) = (Value.ofText? t).map fun v => ⟨.text p, .equal, v⟩ := by
  have hline : bareLine p t = p.keyword ++ ' ' :: t := by
    simp [bareLine]
  rw [hline, ofLine?_keyword_append, ofTextRest?, splitOperator_of_not_beginsWithOperator h]
  rfl

/-- **Operators in front of names.** A text that is not blank stands for a value. Behind a text
property and any operator it makes a condition with this value. So it does behind the text property
alone, unless it begins with an operator that has another word behind it. Whatever their operators,
these conditions hold for the same items. -/
theorem ofLine?_operatorLine_and_bareLine (p : TextProperty) (h : t.isBlankText = false) :
    ∃ v, Value.ofText? t = some v ∧
      (∀ o, ofLine? (operatorLine p o t) = some ⟨.text p, o, v⟩) ∧
      (¬ BeginsWithOperator t → ofLine? (bareLine p t) = some ⟨.text p, .equal, v⟩) ∧
      ∀ o o' i, holds ⟨.text p, o, v⟩ i = holds ⟨.text p, o', v⟩ i := by
  have hwords : Text.words t ≠ [] := by
    rw [Ne, Text.words_eq_nil_iff_isBlankText]
    exact ne_true_of_eq_false h
  obtain ⟨v, hv⟩ := Option.ne_none_iff_exists'.1 (mt Value.ofText?_eq_none_iff.1 hwords)
  refine ⟨v, hv, fun o => ?_, fun hbare => ?_, fun o o' i => holds_text_congr rfl i⟩
  · rw [ofLine?_operatorLine p o h, hv]
    rfl
  · rw [ofLine?_bareLine p hbare, hv]
    rfl

/-- A name that looks like an operator, with blanks around it. -/
def symbolAsName : Text := "\t>= "

/-- It is a name behind another operator, and it is one when it stands alone. -/
theorem ofLine?_operatorLine_and_bareLine_symbolAsName :
    symbolAsName.isBlankText = false ∧ ¬ BeginsWithOperator symbolAsName ∧
      ofLine? "Class < \t>= " = some ⟨.text .itemClass, .less, .text ">="⟩ ∧
      ofLine? "Class \t>= " = some ⟨.text .itemClass, .equal, .text ">="⟩ ∧
      ∀ i, holds ⟨.text .itemClass, .less, .text ">="⟩ i =
        holds ⟨.text .itemClass, .equal, .text ">="⟩ i := by
  have hbare : ¬ BeginsWithOperator symbolAsName := by
    rintro ⟨o, name, names, hwords⟩
    have hsingle : Text.words symbolAsName = [[('>' : Char), '=']] := by decide
    rw [hsingle] at hwords
    exact absurd hwords (by simp)
  obtain ⟨v, hv, hoperator, hnone, hholds⟩ :=
    ofLine?_operatorLine_and_bareLine (t := symbolAsName) .itemClass (by decide)
  obtain rfl : v = .text ">=" := Option.some.inj (hv.symm.trans (by decide))
  exact ⟨by decide, hbare, hoperator .less, hnone hbare, hholds .less .equal⟩

/-- A second symbol is a name behind the first one, and the first one is split off the second. -/
example : ofLine? (operatorLine .itemClass .assign "= Orb") =
      some ⟨.text .itemClass, .assign, .list ["=", "Orb"]⟩ ∧
    ofLine? (bareLine .itemClass "= Orb") = some ⟨.text .itemClass, .assign, .text "Orb"⟩ := by
  decide

end Condition

end LootFilter
