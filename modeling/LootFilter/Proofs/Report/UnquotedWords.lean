import LootFilter.Proofs.Condition.Display
import LootFilter.Proofs.Report.LineProblems

/-!
# Words without quotes

A name of several words needs quotes. Without them every word is a name of its own, which is rarely
meant, and the check warns of it. But the check never looks at the condition that is read: it splits
off the operator once more, looks for a quote behind it and counts the words. So it could warn where
a single name is read, or keep silent where several are.

It does neither. Whether an operator is split off depends on the words alone, for both of them, and
neither a keyword nor an operator holds a quote. Hence a quote anywhere on the line is one among the
names, where it keeps the check silent, even if it is never closed and the words are names after
all.

## Main definitions

* `Line.HasUnquotedNames` — a line without quotes that stands for a condition with several names

## Main results

* `Check.quote_mem_splitOperator_iff` — the quotes of a line stand behind its operator
* `Line.hasUnquotedNames_iff` — several names without quotes are seen from the words
* `Check.lineProblems_eq_unquotedWords` — the lines of which the check warns
-/

namespace LootFilter

variable {line : Text} {p : TextProperty} {arguments : List Text}

/-- A line without quotes that stands for a condition with a list of names, two or more. -/
def Line.HasUnquotedNames (line : Text) : Prop :=
  '"' ∉ line ∧ ∃ c names, Condition.ofLine? line = some c ∧ c.value = .list names ∧
    2 ≤ names.length

namespace Check

theorem quote_not_mem_keyword (p : TextProperty) : '"' ∉ p.keyword := by
  cases p <;> decide

theorem quote_not_mem_symbol (o : Operator) : '"' ∉ o.symbol := by
  cases o <;> decide

/-- An operator in front of names takes no quote away from them. -/
theorem exists_quote_mem_names_iff :
    (∃ w ∈ (Condition.operatorAndNames arguments).2, '"' ∈ w) ↔ ∃ w ∈ arguments, '"' ∈ w := by
  rcases Condition.operatorAndNames_cases arguments with hnames | hnames
  · rw [hnames]
  · conv =>
      rhs
      rw [hnames]
    simp [quote_not_mem_symbol]

/-- All quotes of a line stand behind its operator. -/
theorem quote_mem_splitOperator_iff {rest : Text}
    (hwords : Text.words line = p.keyword :: Text.words rest) :
    '"' ∈ (Condition.splitOperator rest).2 ↔ '"' ∈ line := by
  have hquote : isBlank '"' = false := by decide
  rw [Text.mem_iff_exists_mem_words hquote, Text.mem_iff_exists_mem_words hquote, hwords,
    (Condition.splitOperator_words rest).2, exists_quote_mem_names_iff]
  simp [quote_not_mem_keyword]

end Check

/-- Whether a line without quotes has several names is seen from its words. -/
theorem Line.hasUnquotedNames_iff (hwords : Text.words line = p.keyword :: arguments) :
    HasUnquotedNames line ↔
      '"' ∉ line ∧ 2 ≤ (Condition.operatorAndNames arguments).2.length := by
  obtain ⟨rest, hfirst, rfl⟩ := Text.exists_firstWord? hwords
  refine and_congr_right fun hquote => ?_
  have hvalue : '"' ∉ (Condition.splitOperator rest).2 := by
    rwa [Check.quote_mem_splitOperator_iff hwords]
  rw [Condition.ofLine?_text hfirst, ← (Condition.splitOperator_words rest).2]
  constructor
  · -- without quotes the names of a value are its words
    rintro ⟨c, names, hread, hlist, hlength⟩
    obtain ⟨v, hv, rfl⟩ := Condition.ofTextRest?_eq_some_iff.1 hread
    rw [← Value.alternatives_of_ofText? hv hvalue]
    obtain rfl : v = .list names := hlist
    exact hlength
  · intro hlength
    have hne : Text.words (Condition.splitOperator rest).2 ≠ [] := by
      apply List.ne_nil_of_length_pos
      omega
    have hv := Value.ofText?_of_quote_not_mem hvalue hne
    rw [Value.ofWords_of_two_le hlength] at hv
    exact ⟨_, _, Condition.ofTextRest?_eq_some_iff.2 ⟨_, hv, rfl⟩, rfl, hlength⟩

namespace Check

/-- What the check looks for is a line without quotes that has several names. -/
theorem warns_iff_hasUnquotedNames {rest : Text}
    (hwords : Text.words line = p.keyword :: Text.words rest) :
    (!(Condition.splitOperator rest).2.contains '"' &&
        1 < (Text.words (Condition.splitOperator rest).2).length) = true ↔
      Line.HasUnquotedNames line := by
  rw [Line.hasUnquotedNames_iff hwords, ← quote_mem_splitOperator_iff hwords,
    (Condition.splitOperator_words rest).2]
  simp [Nat.lt_iff_add_one_le]

/-- **Words without quotes.** On a line whose first word names a base type or a class, the check has
exactly one finding if the line holds no quote and stands for a condition with a list of two or more
names. The finding is the warning that several values should be in quotes. Otherwise the check has
no finding on the line. -/
theorem lineProblems_eq_unquotedWords (hp : p = .baseType ∨ p = .itemClass)
    (hwords : Text.words line = p.keyword :: arguments) :
    (Line.HasUnquotedNames line →
      ∃ q : Problem, lineProblems line = [q] ∧ q.severity = .warning ∧
        q.message = "Multiple values should be in quotes (" ++ p.keyword ++ ")") ∧
      (¬ Line.HasUnquotedNames line → lineProblems line = []) := by
  obtain ⟨rest, -, rfl, hproblems⟩ := lineProblems_of_words hwords
  have hfound : lineProblems line = textProblems p rest := by
    rw [hproblems]
    rcases hp with rfl | rfl
    · exact keywordProblems_property (.text .baseType) rest
    · exact keywordProblems_property (.text .itemClass) rest
  constructor
  · intro hnames
    have hwarns := (warns_iff_hasUnquotedNames hwords).2 hnames
    exact ⟨.unquotedWords p, hfound.trans (if_pos hwarns), rfl, rfl⟩
  · intro hnames
    have hsilent := mt (warns_iff_hasUnquotedNames hwords).1 hnames
    exact hfound.trans (if_neg hsilent)

/-- The check warns of two names behind an operator, and a quote that is not closed silences it. -/
theorem lineProblems_eq_unquotedWords_chaosOrb :
    Text.words "BaseType = Chaos Orb" = TextProperty.baseType.keyword :: ["=", "Chaos", "Orb"] ∧
      Line.HasUnquotedNames "BaseType = Chaos Orb" ∧
      (∃ q : Problem, lineProblems "BaseType = Chaos Orb" = [q] ∧ q.severity = .warning) ∧
      Text.words "Class Chaos \"Orb" = TextProperty.itemClass.keyword :: ["Chaos", "\"Orb"] ∧
      Condition.ofLine? "Class Chaos \"Orb" =
        some ⟨.text .itemClass, .equal, .list ["Chaos", "\"Orb"]⟩ ∧
      lineProblems "Class Chaos \"Orb" = [] := by
  have hwords : Text.words "BaseType = Chaos Orb" =
      TextProperty.baseType.keyword :: ["=", "Chaos", "Orb"] := by
    decide
  have hnames : Line.HasUnquotedNames "BaseType = Chaos Orb" :=
    (Line.hasUnquotedNames_iff hwords).2 (by decide)
  obtain ⟨q, hq, hwarning, -⟩ := (lineProblems_eq_unquotedWords (.inl rfl) hwords).1 hnames
  have hstray : Text.words "Class Chaos \"Orb" =
      TextProperty.itemClass.keyword :: ["Chaos", "\"Orb"] := by
    decide
  have hquoted : ¬ Line.HasUnquotedNames "Class Chaos \"Orb" :=
    fun h => absurd h.1 (by decide)
  exact ⟨hwords, hnames, ⟨q, hq, hwarning⟩, hstray, by decide,
    (lineProblems_eq_unquotedWords (.inr rfl) hstray).2 hquoted⟩

end Check

end LootFilter
