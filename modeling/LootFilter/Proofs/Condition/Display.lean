import LootFilter.Filter.Verdict
import LootFilter.Proofs.Condition.Grammar

/-!
# Conditions written out

A condition is written out in one way: the property, the operator, and the value, in which every
name stands in quotes. Lines have more freedom. A name of one word needs no quotes, the operator in
front of names may be missing, and a number may begin with zeros. Reading a line and writing the
condition out therefore need not give the line back, but reading what is written out gives the
condition back, apart from the difference between one name and a list of one name, which plays no
part in what the condition matches.

The quote itself is the one character that cannot be written out. It gets into a name if a line has
a quote that is never closed.

## Main definitions

* `Condition.IsReadable` — the conditions that lines stand for

## Main results

* `Condition.IsReadable.of_ofLine?` — what is read is readable
* `Value.ofText?_joined_quoted`, `Value.ofDigits_display` — values are read back
* `Condition.ofLine?_display_readsBack` — conditions are read back from what is written out
-/

namespace LootFilter

theorem isBlank_of_isDigit {c : Char} (h : c.isDigit = true) : isBlank c = false := by
  have hrange : 48 ≤ c.toNat ∧ c.toNat ≤ 57 := by
    simpa [Char.isDigit, UInt32.le_iff_toNat_le] using h
  simp only [isBlank, inRanges, blankRanges, List.any_cons, List.any_nil, Bool.or_false,
    Bool.or_eq_false_iff, Bool.and_eq_false_iff, decide_eq_false_iff_not]
  omega

namespace Value

variable {t : Text} {v : Value} {ts : List Text}

/-! ### Names -/

theorem display_eq_joined_quoted (h : v.alternatives ≠ []) :
    v.display = Text.joined " " (v.alternatives.map quoted) := by
  cases v with
  | text t => rfl
  | list ts => rfl
  | number n => exact absurd rfl h
  | malformed digits => exact absurd rfl h

theorem joined_quoted_cons_cons (s t : Text) (ts : List Text) :
    Text.joined " " ((s :: t :: ts).map quoted) =
      quoted s ++ ' ' :: Text.joined " " ((t :: ts).map quoted) := by
  simp [Text.joined]

theorem isTidy_quoted (t : Text) : (quoted t).IsTidy := by
  have hquote : Text.trim ['"'] = ['"'] := by decide
  exact ⟨Text.trim_cons_append (by decide) t hquote (by simp), by simp [quoted]⟩

/-- Names in quotes begin and end with a quote, so they are tidy whatever they are. -/
theorem isTidy_joined_quoted (hne : ts ≠ []) : (Text.joined " " (ts.map quoted)).IsTidy := by
  induction ts with
  | nil => exact absurd rfl hne
  | cons t ts ih =>
    cases ts with
    | nil => exact isTidy_quoted t
    | cons u us =>
      rw [joined_quoted_cons_cons]
      exact (isTidy_quoted t).append_space (ih (List.cons_ne_nil u us))

/-- The segments of names in quotes are the names without the blanks around them. The text in front
holds no quote: behind the first name it is a space. -/
theorem quotedSegments_append_joined_quoted {before : Text} (hbefore : '"' ∉ before)
    (h : ∀ t ∈ ts, Text.trim t ≠ [] ∧ '"' ∉ t) :
    Text.quotedSegments (before ++ Text.joined " " (ts.map quoted)) = ts.map Text.trim := by
  induction ts generalizing before with
  | nil => exact Text.quotedSegments_of_not_mem (by simpa [Text.joined] using hbefore)
  | cons t ts ih =>
    obtain ⟨hblank, hquote⟩ := h t List.mem_cons_self
    cases ts with
    | nil =>
      calc Text.quotedSegments (before ++ quoted t)
          = Text.keepSegment t.reverse (Text.quotedSegments []) :=
            Text.quotedSegments_append_quoted hbefore hquote []
        _ = [Text.trim t] := Text.keepSegment_of_trim_ne_nil hblank _
    | cons u us =>
      have hspace : '"' ∉ [' '] := by decide
      have hrest := ih hspace fun t' ht' => h t' (List.mem_cons_of_mem t ht')
      calc Text.quotedSegments (before ++ Text.joined " " ((t :: u :: us).map quoted))
          = Text.keepSegment t.reverse
              (Text.quotedSegments ([' '] ++ Text.joined " " ((u :: us).map quoted))) := by
            rw [joined_quoted_cons_cons, ← Text.quotedSegments_append_quoted hbefore hquote]
            simp [quoted]
        _ = (t :: u :: us).map Text.trim := by
            rw [hrest, Text.keepSegment_of_trim_ne_nil hblank]
            rfl

/-- Names without quotes are read without the blanks around them. -/
theorem ofText?_joined_quoted (hne : ts ≠ []) (h : ∀ t ∈ ts, Text.trim t ≠ [] ∧ '"' ∉ t) :
    ofText? (Text.joined " " (ts.map quoted)) = some (.list (ts.map Text.trim)) := by
  have hsegments : Text.quotedSegments (Text.joined " " (ts.map quoted)) = ts.map Text.trim :=
    quotedSegments_append_joined_quoted List.not_mem_nil h
  unfold ofText?
  rw [(isTidy_joined_quoted hne).not_isBlankText, if_neg Bool.false_ne_true, hsegments]
  split
  next hnil => exact absurd (List.map_eq_nil_iff.1 hnil) hne
  next => rfl

/-- The names of a value are read back. -/
theorem IsNaming.ofText?_joined_quoted (hv : v.IsNaming) (h : ∀ a ∈ v.alternatives, '"' ∉ a) :
    ofText? (Text.joined " " (v.alternatives.map quoted)) = some (.list v.alternatives) := by
  have htrim : v.alternatives.map Text.trim = v.alternatives :=
    (List.map_congr_left fun a ha => (hv.isTidy a ha).trim_eq).trans (List.map_id _)
  rw [Value.ofText?_joined_quoted hv.ne_nil fun a ha => ⟨?_, h a ha⟩, htrim]
  rw [(hv.isTidy a ha).trim_eq]
  exact (hv.isTidy a ha).ne_nil

/-! ### Numbers -/

theorem ofDigits_eq_number_or_malformed (digits : Text) :
    (∃ n, ofDigits digits = .number n) ∨ ofDigits digits = .malformed digits := by
  unfold ofDigits
  split
  · exact Or.inl ⟨_, rfl⟩
  · exact Or.inr rfl

/-- The number that digits stand for is written with digits that stand for the same number. -/
theorem ofDigits_display {digits : Text} (hne : digits ≠ [])
    (h : ∀ c ∈ digits, c.isDigit = true) :
    (ofDigits digits).display ≠ [] ∧ (∀ c ∈ (ofDigits digits).display, c.isDigit = true) ∧
      ofDigits (ofDigits digits).display = ofDigits digits := by
  cases hn : Literal.integer? digits with
  | none =>
    have hself : ofDigits digits = .malformed digits := by simp [ofDigits, hn]
    rw [hself]
    exact ⟨hne, h, hself⟩
  | some n =>
    have hself : ofDigits digits = .number n := by simp [ofDigits, hn]
    -- digits have no sign, so the number is written without one
    obtain ⟨m, rfl⟩ : ∃ m : Nat, n = m := by
      rw [Literal.integer?_of_digits hne h] at hn
      split_ifs at hn
      exact ⟨_, (Option.some.inj hn).symm⟩
    rw [hself]
    refine ⟨Text.ofNat_ne_nil m, fun c hc => Text.isDigit_of_mem_ofNat hc, ?_⟩
    have hback := Literal.integer?_ofInt (Literal.isWord_of_integer? hn)
    rw [display, ofDigits, hback]

end Value

namespace Condition

variable {line : Text} {c : Condition}

/-! ### What is read -/

/-- The conditions that lines stand for. -/
inductive IsReadable : Condition → Prop
  /-- A text has one of several names. -/
  | text (p : TextProperty) (o : Operator) {v : Value} (hv : v.IsNaming) :
      IsReadable ⟨.text p, o, v⟩
  /-- A number is compared with one that is written in digits. -/
  | number (p : NumberProperty) (o : Operator) {digits : Text} (hne : digits ≠ [])
      (hdigits : ∀ c ∈ digits, c.isDigit = true) : IsReadable ⟨.number p, o, Value.ofDigits digits⟩

/-- What is read is readable. -/
theorem IsReadable.of_ofLine? (h : ofLine? line = some c) : c.IsReadable := by
  rcases ofLine?_eq_some_iff.1 h with ⟨p, rest, -, hread⟩ | ⟨p, rest, -, hread⟩
  · obtain ⟨v, hv, rfl⟩ := ofTextRest?_eq_some_iff.1 hread
    exact .text p _ (.of_ofText? hv)
  · obtain ⟨o, digits, hwords, hdigits, rfl⟩ := ofNumberRest?_eq_some_iff.1 hread
    have hne : digits ≠ [] := Text.ne_nil_of_mem_words (t := rest) (by simp [hwords])
    exact .number p o hne (List.all_eq_true.1 hdigits)

/-! ### What is written out -/

theorem isBlank_of_mem_keyword {p : Property} : ∀ ch ∈ p.keyword, isBlank ch = false := by
  have hall : p.keyword.all (!isBlank ·) = true := by
    rcases p with p | p <;> cases p <;> decide
  simpa using hall

theorem isBlank_of_mem_symbol {o : Operator} : ∀ ch ∈ o.symbol, isBlank ch = false := by
  have hall : o.symbol.all (!isBlank ·) = true := by
    cases o <;> decide
  simpa using hall

theorem keyword_ne_nil (p : Property) : p.keyword ≠ [] := by
  rcases p with p | p <;> cases p <;> decide

theorem symbol_ne_nil (o : Operator) : o.symbol ≠ [] := by
  cases o <;> decide

theorem keyword_append_symbol_append (p : Property) (o : Operator) (t : Text) :
    p.keyword ++ " " ++ o.symbol ++ " " ++ t = p.keyword ++ ' ' :: (o.symbol ++ ' ' :: t) := by
  simp

/-- The words of a keyword, an operator and a text. -/
theorem words_keyword_append_symbol_append (p : Property) (o : Operator) (t : Text) :
    Text.words (p.keyword ++ " " ++ o.symbol ++ " " ++ t) =
      p.keyword :: o.symbol :: Text.words t := by
  rw [keyword_append_symbol_append,
    Text.words_append_space isBlank_of_mem_keyword (keyword_ne_nil p),
    Text.words_append_space isBlank_of_mem_symbol (symbol_ne_nil o)]

/-- A condition that is written out is read as its property, with the operator and the value
behind it. -/
theorem firstWord?_display (c : Condition) (h : c.value.display.IsTidy) :
    Text.firstWord? c.display =
      some (c.property.keyword, c.operator.symbol ++ ' ' :: c.value.display) := by
  have hrest := (Text.isTidy_of_forall_not_isBlank isBlank_of_mem_symbol
    (symbol_ne_nil c.operator)).append_space h
  rw [display, keyword_append_symbol_append,
    Text.firstWord?_append_space isBlank_of_mem_keyword (keyword_ne_nil _), hrest.trim_eq]

/-- An operator in front of a text that is not blank is split off. -/
theorem splitOperator_symbol (o : Operator) {t : Text} (h : t.isBlankText = false) :
    splitOperator (o.symbol ++ ' ' :: t) = (some o, Text.trim t) := by
  have hfirst := Text.firstWord?_append_space isBlank_of_mem_symbol (symbol_ne_nil o) t
  have hvalue : (Text.trim t).isEmpty = false := by
    rw [← Bool.not_eq_true, List.isEmpty_iff, ← Text.isBlankText_iff, h]
    exact Bool.false_ne_true
  simp [splitOperator, hfirst, Operator.ofSymbol?_symbol, hvalue]

/-- Names are read back as a list, the operator included. -/
theorem ofLine?_display_text (p : TextProperty) (o : Operator) {v : Value} (hv : v.IsNaming)
    (hquotes : ∀ a ∈ v.alternatives, '"' ∉ a) :
    ofLine? (display ⟨.text p, o, v⟩) = some ⟨.text p, o, .list v.alternatives⟩ := by
  have hdisplay := Value.display_eq_joined_quoted hv.ne_nil
  have htidy : v.display.IsTidy := by
    rw [hdisplay]
    exact Value.isTidy_joined_quoted hv.ne_nil
  have hvalue : Value.ofText? v.display = some (.list v.alternatives) := by
    rw [hdisplay]
    exact hv.ofText?_joined_quoted hquotes
  rw [ofLine?, firstWord?_display _ htidy]
  simp [Property.ofKeyword?_keyword, ofTextRest?, splitOperator_symbol o htidy.not_isBlankText,
    htidy.trim_eq, hvalue]

/-- A comparison of numbers is read back as it is. -/
theorem ofLine?_display_number (p : NumberProperty) (o : Operator) {digits : Text}
    (hne : digits ≠ []) (hdigits : ∀ c ∈ digits, c.isDigit = true) :
    ofLine? (display ⟨.number p, o, Value.ofDigits digits⟩) =
      some ⟨.number p, o, Value.ofDigits digits⟩ := by
  obtain ⟨hvne, hvdigits, hback⟩ := Value.ofDigits_display hne hdigits
  have hblank : ∀ ch ∈ (Value.ofDigits digits).display, isBlank ch = false :=
    fun ch hch => isBlank_of_isDigit (hvdigits ch hch)
  have hwords : Text.words (display ⟨.number p, o, Value.ofDigits digits⟩) =
      [p.keyword, o.symbol, (Value.ofDigits digits).display] := by
    rw [display, words_keyword_append_symbol_append, Text.words_of_forall_not_isBlank hblank hvne]
    rfl
  rw [ofLine?_of_words_number hwords hvdigits, hback]

/-- A condition on a text holds for its alternatives alone. -/
theorem holds_text_congr {p : TextProperty} {o o' : Operator} {v v' : Value}
    (h : v.alternatives = v'.alternatives) (i : Item) :
    holds ⟨.text p, o, v⟩ i = holds ⟨.text p, o', v'⟩ i := by
  simp only [holds, matchesText, h]

/-- **Conditions are read back.** A condition that a line stands for and whose names hold no quote
is written out as a line that stands for a condition with the same property, operator and
alternatives, and with the same value if it is about a number. The two conditions hold for the same
items, and they are written out in the same way. -/
theorem ofLine?_display_readsBack (h : ofLine? line = some c)
    (hquotes : ∀ a ∈ c.value.alternatives, '"' ∉ a) :
    ∃ c', ofLine? c.display = some c' ∧ c'.property = c.property ∧ c'.operator = c.operator ∧
      c'.value.alternatives = c.value.alternatives ∧
      (c.property.isNumeric = true → c'.value = c.value ∧
        ((∃ n, c.value = .number n) ∨ ∃ digits, c.value = .malformed digits)) ∧
      (∀ i, c'.holds i = c.holds i) ∧ c'.display = c.display := by
  cases IsReadable.of_ofLine? h with
  | @text p o v hv =>
    refine ⟨_, ofLine?_display_text p o hv hquotes, rfl, rfl, rfl, ?_, ?_, ?_⟩
    · intro hnumeric
      exact absurd hnumeric (by simp [Property.isNumeric])
    · have hsame : (Value.list v.alternatives).alternatives = v.alternatives := rfl
      exact fun i => holds_text_congr hsame i
    · rw [display, display, Value.display_eq_joined_quoted hv.ne_nil]
      rfl
  | @number p o digits hne hdigits =>
    refine ⟨_, ofLine?_display_number p o hne hdigits, rfl, rfl, rfl, fun _ => ⟨rfl, ?_⟩,
      fun _ => rfl, rfl⟩
    exact (Value.ofDigits_eq_number_or_malformed digits).imp_right fun h => ⟨digits, h⟩

/-- A class line with blanks in a name, a word outside of quotes and a quote that is not closed. -/
def currencyLine : Text := "\tClass = \"Stackable Currency\"  of \" =  5#\"  \"rest"

/-- The two names are read back, though one of them looks like an operator and a comment. -/
theorem ofLine?_display_readsBack_currency :
    ∃ c, ofLine? currencyLine = some c ∧
      c.value.alternatives = [("Stackable Currency" : Text), ("=  5#" : Text)] ∧
      (∀ a ∈ c.value.alternatives, '"' ∉ a) ∧
      ∃ c', ofLine? c.display = some c' ∧ c'.operator = .assign ∧
        c'.value.alternatives = c.value.alternatives ∧ (∀ i, c'.holds i = c.holds i) ∧
        c'.display = ("Class = \"Stackable Currency\" \"=  5#\"" : Text) := by
  let c : Condition := ⟨.text .itemClass, .assign, .list ["Stackable Currency", "=  5#"]⟩
  have hread : ofLine? currencyLine = some c := by decide
  have hquotes : ∀ a ∈ c.value.alternatives, '"' ∉ a := by decide
  obtain ⟨c', hback, -, hoperator, halternatives, -, hholds, hdisplay⟩ :=
    ofLine?_display_readsBack hread hquotes
  exact ⟨c, hread, rfl, hquotes, c', hback, hoperator, halternatives, hholds,
    hdisplay.trans (by decide)⟩

end Condition

end LootFilter
