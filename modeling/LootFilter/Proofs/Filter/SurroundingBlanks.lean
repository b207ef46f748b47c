import LootFilter.Proofs.Filter.Directives

/-!
# Blanks around a line

What a line stands for is read from its words, so blanks around it should play no part. They play
none where a line is read as a condition or as a directive. But before a line is read as a directive
it is asked whether it begins like one, and then it is taken as it stands. So a blank in front hides
a directive, and it hides nothing else.

The lines of a filter are trimmed before they are asked, and for them the look at the beginning is
only a short cut.

## Main definitions

* `Line.withoutDirective` — what a line stands for, with directives passed over

## Main results

* `Line.classify_trim` — a trimmed line stands for what can be read from it
* `Line.classify_eq_of_blanks` — what blanks around a line change
* `Line.not_forall_classify_eq_reading` — they do change something
-/

namespace LootFilter

variable {line s t : Text} {c : Char}

theorem Condition.ofLine?_trim (line : Text) : ofLine? (Text.trim line) = ofLine? line := by
  rw [ofLine?, ofLine?, Text.firstWord?_trim]

theorem Directive.ofLine?_trim (line : Text) : ofLine? (Text.trim line) = ofLine? line := by
  rw [ofLine?, ofLine?, Text.words_trim]

namespace Line

/-- What a line stands for, with directives passed over. -/
def withoutDirective : Line → Line
  | .directive _ => .other
  | .condition c => .condition c
  | .other => .other

@[simp] theorem withoutDirective_withoutDirective (l : Line) :
    l.withoutDirective.withoutDirective = l.withoutDirective := by
  cases l <;> rfl

/-- Blanks around a line are no part of what can be read from it. -/
theorem reading_congr {a b : Text} (h : Text.trim a = Text.trim b) : reading a = reading b := by
  rw [reading, reading, ← Condition.ofLine?_trim a, ← Directive.ofLine?_trim a, h,
    Condition.ofLine?_trim, Directive.ofLine?_trim]

theorem classify_trim (line : Text) : classify (Text.trim line) = reading line := by
  rw [classify_eq_reading fun _ hc => Text.isBlank_of_mem_head?_trim hc]
  exact reading_congr (Text.trim_trim line)

/-- No directive begins with a blank. -/
theorem looksLikeDirective_cons_of_isBlank (h : isBlank c = true) (t : Text) :
    looksLikeDirective (c :: t) = false := by
  -- directives begin with one of two letters
  have hs : 'S' ≠ c := Ne.symm (Text.ne_of_holds h rfl)
  have hp : 'P' ≠ c := Ne.symm (Text.ne_of_holds h rfl)
  simp [looksLikeDirective, List.isPrefixOf, hs, hp]

/-- A line that begins with a blank can still be a condition, but it is no directive. -/
theorem classify_cons_of_isBlank (h : isBlank c = true) (t : Text) :
    classify (c :: t) = (reading (c :: t)).withoutDirective := by
  unfold classify reading
  cases Condition.ofLine? (c :: t) with
  | some condition => rfl
  | none =>
    -- a directive may be read from it, but nobody asks
    rw [looksLikeDirective_cons_of_isBlank h]
    cases Directive.ofLine? (c :: t) <;> rfl

/-- What a line stands for is what can be read from it, less the directives if it begins with a
blank. -/
theorem classify_eq (line : Text) :
    classify line =
      if line.head?.any isBlank then (reading line).withoutDirective else reading line := by
  cases line with
  | nil => rfl
  | cons c t =>
    by_cases hc : isBlank c = true
    · rw [classify_cons_of_isBlank hc, List.head?_cons, Option.any_some, if_pos hc]
    · rw [List.head?_cons, Option.any_some, if_neg hc]
      apply classify_eq_reading
      rintro d ⟨⟩
      simpa using hc

theorem classify_append_of_isBlank (h : ∀ c ∈ s, isBlank c = true) (line : Text) :
    classify (line ++ s) = classify line := by
  have hreading := reading_congr (Text.trim_append_of_isBlank h line)
  rw [classify_eq, classify_eq line, hreading]
  cases line with
  | nil =>
    -- from blanks nothing can be read, so it does not matter that they begin the line
    have hnothing : reading [] = .other := rfl
    rw [hnothing]
    split <;> rfl
  | cons c t => rfl

/-- A blank in front hides a directive. -/
theorem classify_append_of_isBlank_left (h : ∀ c ∈ s, isBlank c = true) (hne : s ≠ [])
    (line : Text) : classify (s ++ line) = (classify line).withoutDirective := by
  have hreading := reading_congr (Text.trim_append_of_isBlank_left h line)
  obtain ⟨c, s', rfl⟩ := List.exists_cons_of_ne_nil hne
  rw [List.cons_append] at hreading ⊢
  -- the line may begin with a blank itself, and then it has no directive to lose
  rw [classify_cons_of_isBlank (h c List.mem_cons_self), hreading, classify_eq line]
  split
  · exact (withoutDirective_withoutDirective _).symm
  · rfl

/-- **Blanks around a line.** A line that begins with no blank stands for the condition that can be
read from it, or else for the directive that can be read from it, or else for nothing. A line that
begins with a blank stands for the same, except that directives are passed over. So blanks behind a
line change nothing, and blanks in front of it make nothing of a directive and change nothing else.
A trimmed line stands for what can be read from it. -/
theorem classify_eq_of_blanks (line : Text) :
    ((∀ c ∈ line.head?, isBlank c = false) → classify line = reading line) ∧
      ((∃ c ∈ line.head?, isBlank c = true) → classify line = (reading line).withoutDirective) ∧
      (∀ s, (∀ c ∈ s, isBlank c = true) →
        classify (line ++ s) = classify line ∧
          (s ≠ [] → classify (s ++ line) = (classify line).withoutDirective)) ∧
      classify (Text.trim line) = reading line := by
  refine ⟨classify_eq_reading, ?_, ?_, classify_trim line⟩
  · rintro ⟨c, hc, hblank⟩
    rw [classify_eq, Option.mem_def.1 hc, Option.any_some, if_pos hblank]
  · intro s hs
    exact ⟨classify_append_of_isBlank hs line,
      fun hne => classify_append_of_isBlank_left hs hne line⟩

/-- A font size behind two blanks can be read, and the line stands for nothing. So a line need not
stand for what can be read from it, and blanks in front of a line can change what it stands for. -/
theorem not_forall_classify_eq_reading :
    (¬ ∀ line : Text, '#' ∉ line → classify line = reading line) ∧
      ¬ ∀ line s : Text, '#' ∉ line → (∀ c ∈ s, isBlank c = true) →
        classify (s ++ line) = classify line := by
  have hread : reading "  SetFontSize 40" = .directive (.fontSize 40) := by decide
  have hbare : classify "SetFontSize 40" = .directive (.fontSize 40) := by decide
  have hother : classify "  SetFontSize 40" = .other := by decide
  constructor
  · intro h
    have hsame := h "  SetFontSize 40" (by decide)
    rw [hread, hother] at hsame
    exact absurd hsame (by simp)
  · intro h
    have hsame : classify "  SetFontSize 40" = classify "SetFontSize 40" :=
      h "SetFontSize 40" "  " (by decide) (List.all_eq_true.1 rfl)
    rw [hbare, hother] at hsame
    exact absurd hsame (by simp)

end Line

end LootFilter
