import LootFilter.Proofs.Condition.Grammar
import LootFilter.Proofs.Report.LineProblems
import LootFilter.Proofs.Text.FirstWord

/-!
# Keywords and their arguments

The check cuts a line behind its first word and takes the words of the rest for the arguments. A
directive is read from all words of the line at once. Both see the same keyword and the same
arguments, on every line and whatever blanks it holds.

So what they say about a line depends on its words alone. For directives this is how they are read.
The check looks at the rest itself in two places, where it asks whether the rest is empty and
whether there is a quote in it. But both can be seen from the words, and whether an operator is
split off the rest can be seen from them, too.

## Main results

* `Check.lineProblems_congr` — the findings on a line depend on its words alone
* `Text.readers_of_words` — the check and the directives see the same keyword and arguments
* `Text.firstWord?_agrees_with_words` — the two ways to take a line apart agree, and so do the two
  readers
-/

namespace LootFilter

namespace Check

variable {a b r s keyword : Text}

/-- Whether several words stand without quotes can be seen from the words. -/
theorem textProblems_congr (p : TextProperty) (h : Text.words r = Text.words s) :
    textProblems p r = textProblems p s := by
  have hnames : Text.words (Condition.splitOperator r).2 =
      Text.words (Condition.splitOperator s).2 := by
    rw [(Condition.splitOperator_words r).2, (Condition.splitOperator_words s).2, h]
  have hquote : '"' ∈ (Condition.splitOperator r).2 ↔ '"' ∈ (Condition.splitOperator s).2 := by
    have hmark : isBlank '"' = false := by decide
    rw [Text.mem_iff_exists_mem_words hmark, hnames, ← Text.mem_iff_exists_mem_words hmark]
  have hcontains : (Condition.splitOperator r).2.contains '"' =
      (Condition.splitOperator s).2.contains '"' := by
    rw [Bool.eq_iff_iff, List.contains_iff_mem, List.contains_iff_mem, hquote]
  rw [textProblems, textProblems, hnames, hcontains]

theorem propertyProblems_congr (p : Property) (h : Text.words r = Text.words s) :
    propertyProblems p r = propertyProblems p s := by
  unfold propertyProblems
  split
  · rfl
  · exact textProblems_congr _ h
  · rw [numberProblems, numberProblems, h]

/-- The findings on a keyword depend on the words behind it, and on whether there is anything. -/
theorem keywordProblems_congr (h : Text.words r = Text.words s) (hnil : r = [] ↔ s = []) :
    keywordProblems keyword r = keywordProblems keyword s := by
  have hsize : fontSizeProblems r = fontSizeProblems s := by
    rw [fontSizeProblems, fontSizeProblems, h]
  have hbeam : beamProblems r = beamProblems s := by
    rw [beamProblems, beamProblems, h]
  have hcolor : ∀ d, colorProblems d r = colorProblems d s := by
    intro d
    rw [colorProblems, colorProblems, h]
  have hproperty : ∀ p, propertyProblems p r = propertyProblems p s :=
    fun p => propertyProblems_congr p h
  simp only [keywordProblems, hnil, hsize, hbeam, hcolor, hproperty]

/-- The findings on a line depend on its words alone. -/
theorem lineProblems_congr (h : Text.words a = Text.words b) : lineProblems a = lineProblems b := by
  cases hwords : Text.words a with
  | nil =>
    have ha := Text.firstWord?_eq_none_iff.2 hwords
    have hb := Text.firstWord?_eq_none_iff.2 (h.symm.trans hwords)
    rw [lineProblems, lineProblems, ha, hb]
  | cons keyword arguments =>
    obtain ⟨r, hr, rfl, ha⟩ := lineProblems_of_words hwords
    obtain ⟨s, hs, hrest, hb⟩ := lineProblems_of_words (h.symm.trans hwords)
    -- a rest without words is empty, since it is trimmed
    have hnil : r = [] ↔ s = [] := by
      constructor
      · rintro rfl
        exact Text.eq_nil_of_firstWord? hs hrest
      · rintro rfl
        exact Text.eq_nil_of_firstWord? hr hrest.symm
    rw [ha, hb, keywordProblems_congr hrest.symm hnil]

example : lineProblems "\u3000Class  =\tChaos \u0085Orb" = lineProblems "Class = Chaos Orb" :=
  lineProblems_congr (by decide)

end Check

theorem Directive.ofLine?_congr {a b : Text} (h : Text.words a = Text.words b) :
    ofLine? a = ofLine? b := by
  rw [ofLine?, ofLine?, h]

namespace Text

variable {line keyword : Text} {arguments : List Text}

/-- Where there are no words there is nothing to be found or read. -/
theorem readers_of_words_eq_nil (h : words line = []) :
    Check.lineProblems line = [] ∧ Directive.ofLine? line = none := by
  rw [Check.lineProblems, firstWord?_eq_none_iff.2 h, Directive.ofLine?, h]
  exact ⟨rfl, rfl⟩

/-- The check and the directives see the same keyword and the same arguments. -/
theorem readers_of_words (h : words line = keyword :: arguments) :
    ∃ rest, firstWord? line = some (keyword, rest) ∧ words rest = arguments ∧
      Check.lineProblems line = Check.keywordProblems keyword rest ∧
      Directive.ofLine? line = Directive.ofWords? keyword (words rest) := by
  obtain ⟨rest, hfirst, hrest, hproblems⟩ := Check.lineProblems_of_words h
  refine ⟨rest, hfirst, hrest, hproblems, ?_⟩
  rw [Directive.ofLine?, h, hrest]

/-- **Keywords and their arguments.** The words of a line are the pieces between its blanks that are
not empty. If there are none, no first word is read, the check finds nothing and no directive is
read. Otherwise the first word is read, and a trimmed rest that holds the other words; the line is
laid out as the two. The findings on the line are those for this word and this rest, and the
directive is read from this word and the words of this rest. Blanks around the line change neither
the word nor the rest. Lines with the same words have the same findings, and the same directive is
read from them. -/
theorem firstWord?_agrees_with_words (line : Text) :
    words line = (line.splitOnP isBlank).filter (· ≠ []) ∧
      (firstWord? line = none ↔ words line = []) ∧
      (words line = [] → Check.lineProblems line = [] ∧ Directive.ofLine? line = none) ∧
      (∀ keyword arguments, words line = keyword :: arguments →
        ∃ rest, firstWord? line = some (keyword, rest) ∧ trim rest = rest ∧
          words rest = arguments ∧ OpensWith line keyword rest ∧
          Check.lineProblems line = Check.keywordProblems keyword rest ∧
          Directive.ofLine? line = Directive.ofWords? keyword (words rest)) ∧
      (∀ front behind : Text, (∀ c ∈ front, isBlank c = true) → (∀ c ∈ behind, isBlank c = true) →
        firstWord? (front ++ line ++ behind) = firstWord? line) ∧
      ∀ other, words other = words line →
        Check.lineProblems other = Check.lineProblems line ∧
          Directive.ofLine? other = Directive.ofLine? line := by
  refine ⟨words_eq_filter_splitOnP line, firstWord?_eq_none_iff, readers_of_words_eq_nil, ?_,
    fun front behind hfront hbehind => firstWord?_append_append hfront hbehind line,
    fun other h => ⟨Check.lineProblems_congr h, Directive.ofLine?_congr h⟩⟩
  intro keyword arguments hwords
  obtain ⟨rest, hfirst, hrest, hproblems, hdirective⟩ := readers_of_words hwords
  exact ⟨rest, hfirst, trim_of_firstWord? hfirst, hrest, .of_firstWord? hfirst, hproblems,
    hdirective⟩

end Text

end LootFilter
