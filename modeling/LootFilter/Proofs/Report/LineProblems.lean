import LootFilter.Proofs.Text.Words
import LootFilter.Report.Check

/-!
# Findings on a single line

The check looks at the first word of a line and hands the rest to the check for that keyword. What
it finds about numbers, colours, font sizes and beams are errors and no warnings, so arguments that
are left without an error are known to the last word.

## Main definitions

* `Check.NoErrors` — whether none of some findings is an error

## Main results

* `Check.lineProblems_of_words` — the findings on a line, given its words
* `Check.keywordProblems_property`, `Check.keywordProblems_color`, … — which check a keyword gets
* `Check.number_of_noErrors`, `Check.color_of_noErrors`, … — arguments without errors
-/

namespace LootFilter

namespace Check

variable {line keyword rest : Text} {arguments : List Text}

/-- The findings on a line are those for its first word, on a rest that holds the other words. -/
theorem lineProblems_of_words (h : Text.words line = keyword :: arguments) :
    ∃ rest, Text.firstWord? line = some (keyword, rest) ∧ Text.words rest = arguments ∧
      lineProblems line = keywordProblems keyword rest := by
  obtain ⟨rest, hfirst, hrest⟩ := Text.exists_firstWord? h
  exact ⟨rest, hfirst, hrest, by rw [lineProblems, hfirst]⟩

/-! ### Keywords -/

theorem keywordProblems_property (p : Property) (rest : Text) :
    keywordProblems p.keyword rest = propertyProblems p rest := by
  obtain ⟨hshow, hhide, hsize, hbeam⟩ : p.keyword ≠ "Show" ∧ p.keyword ≠ "Hide" ∧
      p.keyword ≠ "SetFontSize" ∧ p.keyword ≠ "PlayEffect" := by
    rcases p with p | p <;> cases p <;> decide
  have hcolor : ColorDirective.ofKeyword? p.keyword = none := by
    rcases p with p | p <;> cases p <;> decide
  rw [keywordProblems, if_neg fun h => hshow h.1, if_neg fun h => hhide h.1, if_neg hsize,
    if_neg hbeam, hcolor, Property.ofKeyword?_keyword]

theorem keywordProblems_fontSize (rest : Text) :
    keywordProblems "SetFontSize" rest = fontSizeProblems rest := by
  have hshow : ("SetFontSize" : Text) ≠ "Show" := by decide
  have hhide : ("SetFontSize" : Text) ≠ "Hide" := by decide
  rw [keywordProblems, if_neg fun h => hshow h.1, if_neg fun h => hhide h.1, if_pos rfl]

theorem keywordProblems_beam (rest : Text) :
    keywordProblems "PlayEffect" rest = beamProblems rest := by
  have hshow : ("PlayEffect" : Text) ≠ "Show" := by decide
  have hhide : ("PlayEffect" : Text) ≠ "Hide" := by decide
  rw [keywordProblems, if_neg fun h => hshow h.1, if_neg fun h => hhide h.1, if_neg (by decide),
    if_pos rfl]

theorem keywordProblems_color (d : ColorDirective) (rest : Text) :
    keywordProblems d.keyword rest = colorProblems d rest := by
  obtain ⟨hshow, hhide, hsize, hbeam⟩ : d.keyword ≠ "Show" ∧ d.keyword ≠ "Hide" ∧
      d.keyword ≠ "SetFontSize" ∧ d.keyword ≠ "PlayEffect" := by
    cases d <;> decide
  have hcolor : ColorDirective.ofKeyword? d.keyword = some d := by cases d <;> decide
  rw [keywordProblems, if_neg fun h => hshow h.1, if_neg fun h => hhide h.1, if_neg hsize,
    if_neg hbeam, hcolor]

/-! ### Arguments without errors -/

/-- Whether none of some findings is an error. -/
def NoErrors (ps : List Problem) : Prop := ∀ q ∈ ps, q.severity ≠ .error

theorem noErrors_append_iff {ps qs : List Problem} :
    NoErrors (ps ++ qs) ↔ NoErrors ps ∧ NoErrors qs :=
  List.forall_mem_append

theorem not_noErrors_singleton {q : Problem} (hq : q.severity = .error) : ¬ NoErrors [q] :=
  fun h => h q (List.mem_singleton_self q) hq

/-- What is reported as an error is not the case. -/
theorem NoErrors.not_of_ite {p : Prop} [Decidable p] {q : Problem}
    (h : NoErrors (if p then [q] else [])) (hq : q.severity = .error) : ¬ p := by
  intro hp
  rw [if_pos hp] at h
  exact not_noErrors_singleton hq h

/-- What is missed as an error is the case. -/
theorem NoErrors.of_ite {p : Prop} [Decidable p] {q : Problem}
    (h : NoErrors (if p then [] else [q])) (hq : q.severity = .error) : p := by
  by_contra hp
  rw [if_neg hp] at h
  exact not_noErrors_singleton hq h

/-- A condition on a number without errors has an operator and a number from zero on. -/
theorem number_of_noErrors {p : NumberProperty} (h : NoErrors (numberProblems p rest)) :
    ∃ o value n, Text.words rest = [Operator.symbol o, value] ∧
      Literal.integer? value = some n ∧ 0 ≤ n := by
  unfold numberProblems at h
  split at h
  · rename_i symbol value extra hwords
    obtain ⟨hoperand, hextra⟩ := noErrors_append_iff.1 h
    obtain ⟨hoperator, hvalue⟩ := noErrors_append_iff.1 hoperand
    obtain rfl := List.isEmpty_iff.1 (hextra.of_ite rfl)
    cases hn : Literal.integer? value with
    | none =>
      rw [hn] at hvalue
      exact absurd hvalue (not_noErrors_singleton rfl)
    | some n =>
      rw [hn] at hvalue
      have hsign := hvalue.not_of_ite rfl
      cases ho : Operator.ofSymbol? symbol with
      | none => exact absurd (by rw [ho]; rfl) (hoperator.not_of_ite rfl)
      | some o =>
        obtain rfl := Operator.ofSymbol?_eq_some_iff.1 ho
        exact ⟨o, value, n, hwords, hn, by omega⟩
  · exact absurd h (not_noErrors_singleton rfl)

/-- A font size without errors is a number in the range that can be drawn. -/
theorem fontSize_of_noErrors (h : NoErrors (fontSizeProblems rest)) :
    ∃ word more n, Text.words rest = word :: more ∧ Literal.integer? word = some n ∧
      minFontSize ≤ n ∧ n ≤ maxFontSize := by
  unfold fontSizeProblems at h
  split at h
  · rename_i n hn
    obtain ⟨word, hword, hnumber⟩ := Option.bind_eq_some_iff.1 hn
    obtain ⟨more, hmore⟩ := List.head?_eq_some_iff.1 hword
    exact ⟨word, more, n, hmore, hnumber, h.of_ite rfl⟩
  · exact absurd h (not_noErrors_singleton rfl)

/-- A colour without errors has three or four channels, each of them a number from 0 to 255. -/
theorem color_of_noErrors {d : ColorDirective} (h : NoErrors (colorProblems d rest)) :
    ((Text.words rest).length = 3 ∨ (Text.words rest).length = 4) ∧
      ∀ word ∈ Text.words rest, ∃ n, Literal.integer? word = some n ∧ 0 ≤ n ∧ n ≤ 255 := by
  obtain ⟨hcount, hchannels⟩ := noErrors_append_iff.1 h
  refine ⟨hcount.of_ite rfl, fun word hword => ?_⟩
  have hchannel : isChannel word = true := by
    by_contra hne
    have hmem : word ∈ (Text.words rest).filter (!isChannel ·) :=
      List.mem_filter.2 ⟨hword, by simpa using hne⟩
    exact hchannels _ (List.mem_map.2 ⟨word, hmem, rfl⟩) rfl
  unfold isChannel at hchannel
  split at hchannel
  · rename_i n hn
    exact ⟨n, hn, by simpa using hchannel⟩
  · exact absurd hchannel (by decide)

/-- A beam without errors has a colour of the palette. -/
theorem beam_of_noErrors (h : NoErrors (beamProblems rest)) :
    ∃ b flags, Text.words rest = Beam.name b :: flags := by
  unfold beamProblems at h
  split at h
  · exact absurd h (not_noErrors_singleton rfl)
  · rename_i name hname
    obtain ⟨flags, hflags⟩ := List.head?_eq_some_iff.1 hname
    obtain ⟨b, hb⟩ := Option.isSome_iff_exists.1 (h.of_ite rfl)
    obtain rfl := Beam.ofName?_eq_some_iff.1 hb
    exact ⟨b, flags, hflags⟩

end Check

end LootFilter
