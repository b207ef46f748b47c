import LootFilter.Condition
import LootFilter.Proofs.Text.Quoted

/-!
# The grammar of conditions

Whether a line stands for a condition is decided in several steps: the keyword is cut off and looked
up, an operator may be split off the rest, and the rest is read as names or as a number, each step
trimming and cutting for itself. All of it depends on the words of the line alone. A text property
needs something behind it, whatever that is, and a number property needs an operator and digits,
and nothing more.

The words also tell the operator. An operator in front of names counts only if a name is left behind
it; a single word is a name, even if it looks like an operator. They do not tell the names, which
may have blanks between quotes, but without quotes the names are the words.

## Main definitions

* `Value.IsNaming` — a value that names tidy alternatives, at least one
* `Condition.IsConditionLine` — the words of the lines that stand for a condition
* `Condition.operatorAndNames` — the operator and the names among the words behind a keyword
* `Condition.IsStatedBy` — what a line says of the condition that it stands for

## Main results

* `Condition.ofTextRest?_eq_some_iff`, `Condition.ofNumberRest?_eq_some_iff` — what is read behind a
  keyword
* `Condition.ofLine?_eq_some_iff` — a condition is read behind the keyword of its property
* `Condition.ofLine?_grammar` — the lines that stand for a condition, and the condition
-/

namespace LootFilter

namespace Value

variable {t digits : Text} {v : Value} {n : Int}

/-- A value that names alternatives, at least one, and all of them tidy. -/
structure IsNaming (v : Value) : Prop where
  ne_nil : v.alternatives ≠ []
  isTidy : ∀ a ∈ v.alternatives, a.IsTidy

theorem alternatives_ofWords (ws : List Text) : (ofWords ws).alternatives = ws := by
  unfold ofWords
  split <;> rfl

/-- What is read as a value names something. -/
theorem IsNaming.of_ofText? (h : ofText? t = some v) : v.IsNaming := by
  unfold ofText? at h
  split_ifs at h with hblank
  split at h
  · -- without segments the words are the names, and a text that is not blank has a word
    obtain rfl := Option.some.inj h
    constructor
    · rw [alternatives_ofWords, Ne, Text.words_eq_nil_iff_isBlankText]
      exact hblank
    · rw [alternatives_ofWords]
      exact fun a ha => Text.isTidy_of_mem_words ha
  next segments hne =>
    obtain rfl := Option.some.inj h
    exact ⟨hne, fun a ha => Text.isTidy_of_mem_quotedSegments ha⟩

/-- Only a blank text stands for no value. -/
theorem ofText?_eq_none_iff : ofText? t = none ↔ Text.words t = [] := by
  rw [Text.words_eq_nil_iff_isBlankText]
  unfold ofText?
  constructor
  · intro h
    by_contra hblank
    rw [if_neg hblank] at h
    split at h <;> exact absurd h (Option.some_ne_none _)
  · intro hblank
    exact if_pos hblank

/-- A value that names something is a tidy text, or a list of tidy texts that is not empty. -/
theorem isNaming_iff :
    v.IsNaming ↔
      (∃ t, v = .text t ∧ t.IsTidy) ∨ ∃ ts, v = .list ts ∧ ts ≠ [] ∧ ∀ t ∈ ts, t.IsTidy := by
  constructor
  · rintro ⟨hne, htidy⟩
    cases v with
    | text t => exact Or.inl ⟨t, rfl, htidy t (List.mem_singleton_self t)⟩
    | list ts => exact Or.inr ⟨ts, rfl, hne, htidy⟩
    | number n => exact absurd rfl hne
    | malformed digits => exact absurd rfl hne
  · rintro (⟨t, rfl, htidy⟩ | ⟨ts, rfl, hne, htidy⟩)
    · exact ⟨List.cons_ne_nil t [], by simpa [alternatives] using htidy⟩
    · exact ⟨hne, htidy⟩

/-- Several words are alternatives. -/
theorem ofWords_of_two_le {ws : List Text} (h : 2 ≤ ws.length) : ofWords ws = .list ws := by
  unfold ofWords
  split
  · exact absurd h (by simp)
  · rfl

/-- Without segments the words are the value. -/
theorem ofText?_of_quotedSegments_eq_nil (hnone : Text.quotedSegments t = [])
    (hne : Text.words t ≠ []) : ofText? t = some (ofWords (Text.words t)) := by
  have hblank : ¬ t.isBlankText = true := by
    rwa [Ne, Text.words_eq_nil_iff_isBlankText] at hne
  rw [ofText?, if_neg hblank, hnone]

/-- Without quotes the words are the value. -/
theorem ofText?_of_quote_not_mem (hquote : '"' ∉ t) (hne : Text.words t ≠ []) :
    ofText? t = some (ofWords (Text.words t)) :=
  ofText?_of_quotedSegments_eq_nil (Text.quotedSegments_of_not_mem hquote) hne

/-- If there are segments, then they are the value. -/
theorem ofText?_of_quotedSegments_ne_nil (hne : Text.quotedSegments t ≠ []) :
    ofText? t = some (.list (Text.quotedSegments t)) := by
  have hblank : ¬ t.isBlankText = true := by
    intro hblank
    apply hne
    apply Text.quotedSegments_of_not_mem
    exact Text.quote_not_mem_of_isBlank (List.all_eq_true.1 hblank)
  rw [ofText?, if_neg hblank]
  split
  · exact absurd ‹_› hne
  · rfl

/-- Without quotes every word is a name. -/
theorem alternatives_of_ofText? (h : ofText? t = some v) (hquote : '"' ∉ t) :
    v.alternatives = Text.words t := by
  have hne : Text.words t ≠ [] := by
    intro hnil
    rw [ofText?_eq_none_iff.2 hnil] at h
    exact absurd h (by simp)
  rw [ofText?_of_quote_not_mem hquote hne] at h
  obtain rfl := Option.some.inj h
  exact alternatives_ofWords _

theorem ofDigits_eq_number_iff :
    ofDigits digits = .number n ↔ Literal.integer? digits = some n := by
  unfold ofDigits
  cases Literal.integer? digits <;> simp

/-- Digits stand for the number that they write, unless it is too great for a signed word. -/
theorem ofDigits_of_digits (hne : digits ≠ []) (h : ∀ c ∈ digits, c.isDigit = true) :
    ofDigits digits =
      if Nat.ofDigitChars 10 digits 0 < 0x8000000000000000 then
        .number (Nat.ofDigitChars 10 digits 0)
      else .malformed digits := by
  rw [ofDigits, Literal.integer?_of_digits hne h]
  split_ifs <;> rfl

end Value

namespace Condition

variable {line rest : Text} {arguments : List Text} {c : Condition}

/-! ### Behind a keyword -/

/-- The operator and the names among the words behind the keyword of a text property. The first word
counts as an operator if it is one and more words follow. -/
def operatorAndNames : List Text → Operator × List Text
  | symbol :: name :: names =>
    match Operator.ofSymbol? symbol with
    | some o => (o, name :: names)
    | none => (.equal, symbol :: name :: names)
  | names => (.equal, names)

theorem operatorAndNames_snd_eq_nil_iff :
    (operatorAndNames arguments).2 = [] ↔ arguments = [] := by
  unfold operatorAndNames
  split
  · split <;> simp
  · rfl

/-- The names are all the words, or all but an operator in front of them. -/
theorem operatorAndNames_cases (arguments : List Text) :
    operatorAndNames arguments = (.equal, arguments) ∨
      arguments = (operatorAndNames arguments).1.symbol :: (operatorAndNames arguments).2 := by
  unfold operatorAndNames
  split
  next symbol name names =>
    split
    next o hsymbol =>
      rw [Operator.ofSymbol?_eq_some_iff.1 hsymbol]
      exact Or.inr rfl
    next => exact Or.inl rfl
  next => exact Or.inl rfl

/-- Splitting an operator off a text splits it off the words of the text. -/
theorem splitOperator_words (rest : Text) :
    (splitOperator rest).1.getD .equal = (operatorAndNames (Text.words rest)).1 ∧
      Text.words (splitOperator rest).2 = (operatorAndNames (Text.words rest)).2 := by
  unfold splitOperator
  split
  next hfirst =>
    rw [Text.firstWord?_eq_none_iff.1 hfirst]
    exact ⟨rfl, rfl⟩
  next word remainder hfirst =>
    rw [Text.words_of_firstWord? hfirst]
    cases hremainder : Text.words remainder with
    | nil =>
      -- a single word is a name, whether it is an operator or not
      have hempty : remainder.isEmpty = true :=
        List.isEmpty_iff.2 (Text.eq_nil_of_firstWord? hfirst hremainder)
      have hwords : Text.words rest = [word] := by
        rw [Text.words_of_firstWord? hfirst, hremainder]
      cases Operator.ofSymbol? word <;> simp [hempty, hwords, operatorAndNames]
    | cons name names =>
      have hnonempty : remainder.isEmpty = false := by
        rw [← Bool.not_eq_true, List.isEmpty_iff]
        rintro rfl
        exact absurd hremainder (by simp)
      have hwords : Text.words rest = word :: name :: names := by
        rw [Text.words_of_firstWord? hfirst, hremainder]
      cases hsymbol : Operator.ofSymbol? word <;>
        simp [hnonempty, hremainder, hwords, hsymbol, operatorAndNames]

/-- The names behind an operator are a part of the text. -/
theorem mem_of_mem_splitOperator {ch : Char} (h : ch ∈ (splitOperator rest).2) : ch ∈ rest := by
  unfold splitOperator at h
  split at h
  · exact h
  next hfirst =>
    split at h
    · split_ifs at h
      · exact h
      · exact Text.mem_of_firstWord? hfirst h
    · exact h

/-- A condition on a text is read from an operator, which may be missing, and a value. -/
theorem ofTextRest?_eq_some_iff {p : TextProperty} :
    ofTextRest? p rest = some c ↔
      ∃ v, Value.ofText? (splitOperator rest).2 = some v ∧
        c = ⟨.text p, (operatorAndNames (Text.words rest)).1, v⟩ := by
  rw [ofTextRest?, ← (splitOperator_words rest).1, Option.map_eq_some_iff]
  simp only [eq_comm]

/-- A condition on a text is missing exactly if nothing is written. -/
theorem ofTextRest?_eq_none_iff {p : TextProperty} :
    ofTextRest? p rest = none ↔ Text.words rest = [] := by
  rw [ofTextRest?, Option.map_eq_none_iff, Value.ofText?_eq_none_iff, (splitOperator_words rest).2,
    operatorAndNames_snd_eq_nil_iff]

/-- A condition on a number is read from an operator and digits, and from nothing else. -/
theorem ofNumberRest?_eq_some_iff {p : NumberProperty} :
    ofNumberRest? p rest = some c ↔
      ∃ o digits, Text.words rest = [Operator.symbol o, digits] ∧
        digits.all (·.isDigit) = true ∧ c = ⟨.number p, o, Value.ofDigits digits⟩ := by
  constructor
  · intro h
    unfold ofNumberRest? at h
    split at h
    · next symbol digits hwords =>
      split at h
      · next o hsymbol =>
        split_ifs at h with hdigits
        obtain rfl := Operator.ofSymbol?_eq_some_iff.mp hsymbol
        exact ⟨o, digits, hwords, hdigits, (Option.some.inj h).symm⟩
      · exact absurd h (by simp)
    · exact absurd h (by simp)
  · rintro ⟨o, digits, hwords, hdigits, rfl⟩
    simp only [ofNumberRest?, hwords, Operator.ofSymbol?_symbol, hdigits, if_true]

/-! ### Lines -/

theorem ofLine?_text {p : TextProperty}
    (h : Text.firstWord? line = some (p.keyword, rest)) : ofLine? line = ofTextRest? p rest := by
  have hkeyword : Property.ofKeyword? p.keyword = some (.text p) :=
    Property.ofKeyword?_keyword (.text p)
  simp only [ofLine?, h, hkeyword]

theorem ofLine?_number {p : NumberProperty}
    (h : Text.firstWord? line = some (p.keyword, rest)) : ofLine? line = ofNumberRest? p rest := by
  have hkeyword : Property.ofKeyword? p.keyword = some (.number p) :=
    Property.ofKeyword?_keyword (.number p)
  simp only [ofLine?, h, hkeyword]

/-- A line stands for a condition exactly if its first word names a property and a condition on that
property is read from the rest. -/
theorem ofLine?_eq_some_iff :
    ofLine? line = some c ↔
      (∃ p rest, Text.firstWord? line = some (TextProperty.keyword p, rest) ∧
        ofTextRest? p rest = some c) ∨
      ∃ p rest, Text.firstWord? line = some (NumberProperty.keyword p, rest) ∧
        ofNumberRest? p rest = some c := by
  constructor
  · intro h
    have hread := h
    unfold ofLine? at h
    split at h
    · exact absurd h (by simp)
    next word rest hfirst =>
      split at h
      next p hkeyword =>
        obtain rfl := Property.ofKeyword?_eq_some_iff.1 hkeyword
        exact Or.inl ⟨p, rest, hfirst, h⟩
      next p hkeyword =>
        obtain rfl := Property.ofKeyword?_eq_some_iff.1 hkeyword
        exact Or.inr ⟨p, rest, hfirst, h⟩
      · exact absurd h (by simp)
  · rintro (⟨p, rest, hfirst, h⟩ | ⟨p, rest, hfirst, h⟩)
    · rw [ofLine?_text hfirst, h]
    · rw [ofLine?_number hfirst, h]

/-- A number property, an operator and digits stand for a condition, however they are spaced. -/
theorem ofLine?_of_words_number {p : NumberProperty} {o : Operator} {digits : Text}
    (hwords : Text.words line = [p.keyword, o.symbol, digits])
    (hdigits : ∀ ch ∈ digits, ch.isDigit = true) :
    ofLine? line = some ⟨.number p, o, Value.ofDigits digits⟩ := by
  obtain ⟨rest, hfirst, hrest⟩ := Text.exists_firstWord? hwords
  rw [ofLine?_number hfirst, ofNumberRest?_eq_some_iff]
  exact ⟨o, digits, hrest, List.all_eq_true.2 hdigits, rfl⟩

/-- The words of the lines that stand for a condition: a text property and something behind it, or a
number property, an operator and digits. -/
inductive IsConditionLine : List Text → Prop
  | text (p : TextProperty) {arguments : List Text} (hne : arguments ≠ []) :
      IsConditionLine (p.keyword :: arguments)
  | number (p : NumberProperty) (o : Operator) {digits : Text}
      (hdigits : ∀ ch ∈ digits, ch.isDigit = true) : IsConditionLine [p.keyword, o.symbol, digits]

/-- What a line says of the condition that it stands for. -/
inductive IsStatedBy (line : Text) : Condition → Prop
  /-- A text has one of several names. They are tidy, and without quotes they are the words. -/
  | text (p : TextProperty) {arguments : List Text} {v : Value}
      (hwords : Text.words line = p.keyword :: arguments)
      (hvalue : (∃ t, v = .text t ∧ t.IsTidy) ∨
        ∃ ts, v = .list ts ∧ ts ≠ [] ∧ ∀ t ∈ ts, t.IsTidy)
      (hunquoted : '"' ∉ line → v.alternatives = (operatorAndNames arguments).2) :
      IsStatedBy line ⟨.text p, (operatorAndNames arguments).1, v⟩
  /-- A number is compared with the one that the digits write, or with none if that is too great
  for a signed word. -/
  | number (p : NumberProperty) (o : Operator) {digits : Text}
      (hwords : Text.words line = [p.keyword, o.symbol, digits]) :
      IsStatedBy line ⟨.number p, o,
        if Nat.ofDigitChars 10 digits 0 < 0x8000000000000000 then
          .number (Nat.ofDigitChars 10 digits 0)
        else .malformed digits⟩

theorem isConditionLine_of_ofLine? (h : ofLine? line = some c) :
    IsConditionLine (Text.words line) := by
  rcases ofLine?_eq_some_iff.1 h with ⟨p, rest, hfirst, hread⟩ | ⟨p, rest, hfirst, hread⟩
  · rw [Text.words_of_firstWord? hfirst]
    refine .text p fun hnil => ?_
    rw [ofTextRest?_eq_none_iff.2 hnil] at hread
    exact absurd hread (by simp)
  · obtain ⟨o, digits, hrest, hdigits, -⟩ := ofNumberRest?_eq_some_iff.1 hread
    rw [Text.words_of_firstWord? hfirst, hrest]
    exact .number p o (List.all_eq_true.1 hdigits)

theorem exists_ofLine?_of_isConditionLine (h : IsConditionLine (Text.words line)) :
    ∃ c, ofLine? line = some c := by
  generalize hwords : Text.words line = ws at h
  cases h with
  | text p hne =>
    obtain ⟨rest, hfirst, rfl⟩ := Text.exists_firstWord? hwords
    rw [ofLine?_text hfirst]
    exact Option.ne_none_iff_exists'.1 (mt ofTextRest?_eq_none_iff.1 hne)
  | number p o hdigits => exact ⟨_, ofLine?_of_words_number hwords hdigits⟩

theorem isStatedBy_of_ofLine? (h : ofLine? line = some c) : c.IsStatedBy line := by
  rcases ofLine?_eq_some_iff.1 h with ⟨p, rest, hfirst, hread⟩ | ⟨p, rest, hfirst, hread⟩
  · obtain ⟨v, hv, rfl⟩ := ofTextRest?_eq_some_iff.1 hread
    refine .text p (Text.words_of_firstWord? hfirst) (Value.isNaming_iff.1 (.of_ofText? hv)) ?_
    intro hquote
    have hrest : '"' ∉ (splitOperator rest).2 := fun hmem =>
      hquote (Text.mem_of_firstWord? hfirst (mem_of_mem_splitOperator hmem))
    rw [Value.alternatives_of_ofText? hv hrest, (splitOperator_words rest).2]
  · obtain ⟨o, digits, hrest, hdigits, rfl⟩ := ofNumberRest?_eq_some_iff.1 hread
    have hne : digits ≠ [] := Text.ne_nil_of_mem_words (t := rest) (by simp [hrest])
    rw [Value.ofDigits_of_digits hne (List.all_eq_true.1 hdigits)]
    exact .number p o (by rw [Text.words_of_firstWord? hfirst, hrest])

/-- **The grammar of conditions.** A line stands for a condition exactly if its words are a text
property and something behind it, or a number property, an operator and digits. The condition is on
that property. On a text, it has the operator in front of the names, if there is one, and at least
one name, all of them tidy; on a number, it has the operator and the number that are written, and
the digits themselves if the number is too great for a signed word. -/
theorem ofLine?_grammar (line : Text) :
    ((∃ c, ofLine? line = some c) ↔ IsConditionLine (Text.words line)) ∧
      ∀ c, ofLine? line = some c → c.IsStatedBy line := by
  refine ⟨⟨?_, exists_ofLine?_of_isConditionLine⟩, fun c => isStatedBy_of_ofLine?⟩
  rintro ⟨c, hc⟩
  exact isConditionLine_of_ofLine? hc

/-- A symbol alone is a name; in front of another word it is an operator. -/
example : ofLine? "Class =" = some ⟨.text .itemClass, .equal, .text "="⟩ ∧
    ofLine? "Class = =" = some ⟨.text .itemClass, .assign, .text "="⟩ := by
  decide

end Condition

end LootFilter
