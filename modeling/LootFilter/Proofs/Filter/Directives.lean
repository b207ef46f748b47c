import LootFilter.Proofs.Filter.Sections

/-!
# Lines that are directives

A line is read as a condition first, and as a directive only if it begins like one. Neither the
order nor the look at the beginning makes a difference to the lines of a filter: no keyword belongs
to both kinds of lines, and a trimmed line that can be read as a directive begins with the keyword
of one.

## Main definitions

* `Line.reading` — what a line stands for, whatever it begins with

## Main results

* `Line.classify_eq_reading` — the look at the beginning is a short cut
* `Line.classify_of_mem_keywords` — what a trimmed line with the keyword of a directive stands for
* `Line.ofLine?_eq_none_or` — no line can be read as a condition and as a directive
* `Line.directive?_eq` — a line stands for a directive exactly if it can be read as one
-/

namespace LootFilter

namespace Directive

variable {line keyword : Text} {arguments : List Text}

/-- The keywords of directives. -/
def keywords : List Text :=
  ["SetFontSize", "SetTextColor", "SetBorderColor", "SetBackgroundColor", "PlayEffect"]

theorem ofKeyword?_of_mem_keywords :
    ∀ keyword ∈ keywords, Property.ofKeyword? keyword = none := by
  decide

/-- Whatever is read as a directive begins with the keyword of one. -/
theorem mem_keywords_of_ofWords? {d : Directive} (h : ofWords? keyword arguments = some d) :
    keyword ∈ keywords := by
  unfold ofWords? at h
  split_ifs at h <;> simp_all [keywords]

theorem ofLine?_of_words (h : Text.words line = keyword :: arguments) :
    ofLine? line = ofWords? keyword arguments := by
  simp only [ofLine?, h]

theorem exists_words_of_ofLine? {d : Directive} (h : ofLine? line = some d) :
    ∃ keyword arguments, Text.words line = keyword :: arguments ∧ keyword ∈ keywords ∧
      ofWords? keyword arguments = some d := by
  cases hwords : Text.words line with
  | nil => simp [ofLine?, hwords] at h
  | cons keyword arguments =>
    rw [ofLine?_of_words hwords] at h
    exact ⟨keyword, arguments, rfl, mem_keywords_of_ofWords? h, h⟩

end Directive

/-- No property is named like a directive. -/
theorem Condition.ofLine?_of_mem_keywords {line keyword : Text} {arguments : List Text}
    (hwords : Text.words line = keyword :: arguments) (hkeyword : keyword ∈ Directive.keywords) :
    ofLine? line = none := by
  obtain ⟨rest, hfirst, -⟩ := Text.exists_firstWord? hwords
  rw [ofLine?, hfirst]
  simp [Directive.ofKeyword?_of_mem_keywords keyword hkeyword]

namespace Line

/-- No line can be read both as a condition and as a directive. -/
theorem ofLine?_eq_none_or (line : Text) :
    Condition.ofLine? line = none ∨ Directive.ofLine? line = none := by
  cases h : Directive.ofLine? line with
  | none => exact Or.inr rfl
  | some d =>
    obtain ⟨keyword, arguments, hwords, hkeyword, -⟩ := Directive.exists_words_of_ofLine? h
    exact Or.inl (Condition.ofLine?_of_mem_keywords hwords hkeyword)

/-- What a line stands for, whatever it begins with: a condition if it can be read as one, or else a
directive if it can be read as one. -/
def reading (line : Text) : Line :=
  match Condition.ofLine? line with
  | some c => .condition c
  | none =>
    match Directive.ofLine? line with
    | some d => .directive d
    | none => .other

/-- A line that begins with no blank looks like a directive if it can be read as one. -/
theorem looksLikeDirective_of_ofLine? {line : Text} {d : Directive}
    (hhead : ∀ c ∈ line.head?, isBlank c = false) (h : Directive.ofLine? line = some d) :
    looksLikeDirective line = true := by
  obtain ⟨keyword, arguments, hwords, hkeyword, -⟩ := Directive.exists_words_of_ofLine? h
  -- the keyword is where the beginning is looked for
  obtain ⟨more, rfl⟩ := Text.prefix_of_words hhead hwords
  simp only [Directive.keywords, List.mem_cons, List.not_mem_nil, or_false] at hkeyword
  rcases hkeyword with rfl | rfl | rfl | rfl | rfl <;> rfl

/-- The look at the beginning of a line is a short cut, unless the line begins with a blank. -/
theorem classify_eq_reading {line : Text} (hhead : ∀ c ∈ line.head?, isBlank c = false) :
    classify line = reading line := by
  unfold classify reading
  cases Condition.ofLine? line with
  | some c => rfl
  | none =>
    cases hread : Directive.ofLine? line with
    | some d => simp [looksLikeDirective_of_ofLine? hhead hread]
    | none => simp

theorem classify_withoutComment (raw : Text) :
    classify (Text.withoutComment raw) = reading (Text.withoutComment raw) :=
  classify_eq_reading fun _ hc => Text.isBlank_of_mem_head? (Text.trim_withoutComment raw) hc

theorem classify_of_directive? {raw : Text} {d : Directive} (h : directive? raw = some d) :
    classify (Text.withoutComment raw) = .directive d := by
  unfold directive? at h
  split at h
  · rename_i e he
    rw [he, Option.some.inj h]
  · simp at h

/-- A trimmed line that begins with the keyword of a directive is read as a directive. -/
theorem classify_of_mem_keywords {line keyword : Text} {arguments : List Text}
    (htrim : Text.trim line = line) (hwords : Text.words line = keyword :: arguments)
    (hkeyword : keyword ∈ Directive.keywords) :
    classify line =
      match Directive.ofWords? keyword arguments with
      | some d => .directive d
      | none => .other := by
  rw [classify_eq_reading fun _ hc => Text.isBlank_of_mem_head? htrim hc, reading,
    Condition.ofLine?_of_mem_keywords hwords hkeyword, Directive.ofLine?_of_words hwords]

/-- A line stands for a directive exactly if it can be read as one: comments are cut off and blanks
trimmed before the line is asked whether it begins like a directive. -/
theorem directive?_eq (raw : Text) :
    directive? raw = Directive.ofLine? (Text.withoutComment raw) := by
  rw [directive?, classify_withoutComment, reading]
  rcases ofLine?_eq_none_or (Text.withoutComment raw) with hread | hread
  · rw [hread]
    cases Directive.ofLine? (Text.withoutComment raw) <;> rfl
  · rw [hread]
    cases Condition.ofLine? (Text.withoutComment raw) <;> rfl

end Line

end LootFilter
