import LootFilter.Proofs.Report.Findings
import LootFilter.Proofs.Text.Printable

/-!
# The wording of findings

The wording of a finding is a fixed text, except that it may quote a word of the line that it is
about. So the only control characters in it are those of the word; and as a word holds no blank, the
wording of what a check finds never breaks a line, whatever the filter is.

## Main definitions

* `Problem.quotedWord?` — the word that a finding quotes
* `Check.QuoteOnly` — findings that quote no other words than given ones

## Main results

* `Problem.mem_message` — where the control characters of a wording come from
* `Check.quoteOnly_lineProblems` — what a finding quotes is a word of the line
* `Filter.not_mem_message_of_mem_check` — no wording breaks a line
-/

namespace LootFilter

open Text (IsPrintable)

namespace Problem

variable {q : Problem} {c : Char}

/-- The word of the filter that a finding quotes, if it quotes one. -/
def quotedWord? : Problem → Option Text
  | .invalidOperator word _ | .notANumber word _ | .invalidChannel word _ | .unknownBeam word _ =>
    some word
  | _ => none

/-- The wording of a finding that quotes nothing is a fixed text. -/
theorem isPrintable_message (h : q.quotedWord? = none) : q.message.IsPrintable := by
  have happend {s t : Text} (hs : s.IsPrintable) (ht : t.IsPrintable) :
      (s ++ t).IsPrintable := Text.isPrintable_append_iff.mpr ⟨hs, ht⟩
  cases q with
  | outsideBlock | previousBlockEmpty | finalBlockEmpty | fontSizeOutOfRange | missingBeam =>
    decide +kernel
  | headerWithComment v => exact happend v.isPrintable_keyword (by decide +kernel)
  | incompleteCondition p | negativeValue p | extraValue p =>
    exact happend p.isPrintable_keyword (by decide +kernel)
  | channelCount d => exact happend d.isPrintable_keyword (by decide +kernel)
  | unquotedWords p =>
    exact happend (happend (by decide +kernel) p.isPrintable_keyword) (by decide +kernel)
  | invalidOperator | notANumber | invalidChannel | unknownBeam => cases h

/-- The wording of a finding that quotes a word is a fixed text around the word. -/
theorem exists_message_eq {word : Text} (h : q.quotedWord? = some word) :
    ∃ before after : Text, before.IsPrintable ∧ after.IsPrintable ∧
      q.message = before ++ word ++ after := by
  cases q with
  | invalidOperator _ p =>
    obtain rfl := Option.some.inj h
    refine ⟨"Invalid operator '", "' for " ++ p.keyword, by decide +kernel, ?_,
      List.append_assoc _ _ _⟩
    exact Text.isPrintable_append_iff.mpr ⟨by decide +kernel, p.isPrintable_keyword⟩
  | notANumber _ p =>
    obtain rfl := Option.some.inj h
    refine ⟨p.keyword ++ " value must be a number, got '", "'", ?_, by decide, rfl⟩
    exact Text.isPrintable_append_iff.mpr ⟨p.isPrintable_keyword, by decide +kernel⟩
  | invalidChannel _ d =>
    obtain rfl := Option.some.inj h
    refine ⟨"Invalid color value '", "' in " ++ (d.keyword ++ " (must be 0-255)"),
      by decide +kernel, ?_, (List.append_assoc _ _ _).trans (List.append_assoc _ _ _)⟩
    rw [Text.isPrintable_append_iff, Text.isPrintable_append_iff]
    exact ⟨by decide +kernel, d.isPrintable_keyword, by decide +kernel⟩
  | unknownBeam _ suggestion =>
    obtain rfl := Option.some.inj h
    cases suggestion with
    | none => exact ⟨"Invalid effect color '", "'", by decide +kernel, by decide, rfl⟩
    | some b =>
      refine ⟨"Invalid effect color '", "' (did you mean '" ++ (b.name ++ "'?)"),
        by decide +kernel, ?_, (List.append_assoc _ _ _).trans (List.append_assoc _ _ _)⟩
      rw [Text.isPrintable_append_iff, Text.isPrintable_append_iff]
      exact ⟨by decide +kernel, b.isPrintable_name, by decide +kernel⟩
  | _ => cases h

/-- The control characters of a wording are those of the word that it quotes. -/
theorem mem_message (hc : c.toNat < 0x20) (h : c ∈ q.message) :
    ∃ word, q.quotedWord? = some word ∧ c ∈ word := by
  cases hword : q.quotedWord? with
  | none => exact absurd h ((isPrintable_message hword).not_mem hc)
  | some word =>
    obtain ⟨before, after, hbefore, hafter, heq⟩ := exists_message_eq hword
    rw [heq, List.mem_append, List.mem_append] at h
    rcases h with (h | h) | h
    · exact absurd h (hbefore.not_mem hc)
    · exact ⟨word, rfl, h⟩
    · exact absurd h (hafter.not_mem hc)

end Problem

/-! ### What findings quote -/

namespace Check

variable {line keyword rest : Text} {ws : List Text} {q : Problem} {ps qs : List Problem}

/-- Whether some findings quote no other words than the given ones. -/
def QuoteOnly (ws : List Text) (ps : List Problem) : Prop :=
  ∀ q ∈ ps, ∀ word, q.quotedWord? = some word → word ∈ ws

@[simp] theorem quoteOnly_nil : QuoteOnly ws [] := by simp [QuoteOnly]

@[simp] theorem quoteOnly_singleton_iff :
    QuoteOnly ws [q] ↔ ∀ word, q.quotedWord? = some word → word ∈ ws := by
  simp [QuoteOnly]

@[simp] theorem quoteOnly_append_iff :
    QuoteOnly ws (ps ++ qs) ↔ QuoteOnly ws ps ∧ QuoteOnly ws qs :=
  List.forall_mem_append

theorem quoteOnly_numberProblems (p : NumberProperty) (rest : Text) :
    QuoteOnly (Text.words rest) (numberProblems p rest) := by
  rw [numberProblems]
  split
  · next symbol value extra hwords =>
    rw [hwords, quoteOnly_append_iff, operandProblems, quoteOnly_append_iff]
    refine ⟨⟨?_, ?_⟩, ?_⟩
    · split_ifs <;> simp [Problem.quotedWord?]
    · split
      · split_ifs <;> simp [Problem.quotedWord?]
      · simp [Problem.quotedWord?]
    · split_ifs <;> simp [Problem.quotedWord?]
  · simp [Problem.quotedWord?]

theorem quoteOnly_colorProblems (d : ColorDirective) (rest : Text) :
    QuoteOnly (Text.words rest) (colorProblems d rest) := by
  rw [colorProblems, quoteOnly_append_iff]
  constructor
  · split_ifs <;> simp [Problem.quotedWord?]
  · intro q hq word hword
    obtain ⟨channel, hchannel, rfl⟩ := List.mem_map.mp hq
    obtain rfl := Option.some.inj hword
    exact (List.mem_filter.mp hchannel).1

theorem quoteOnly_fontSizeProblems (rest : Text) : QuoteOnly ws (fontSizeProblems rest) := by
  rw [fontSizeProblems]
  split
  · split_ifs <;> simp [Problem.quotedWord?]
  · simp [Problem.quotedWord?]

theorem quoteOnly_beamProblems (rest : Text) :
    QuoteOnly (Text.words rest) (beamProblems rest) := by
  rw [beamProblems]
  split
  · simp [Problem.quotedWord?]
  · next name hname =>
    have hmem : name ∈ Text.words rest := List.mem_of_mem_head? hname
    split_ifs <;> simp [Problem.quotedWord?, hmem]

theorem quoteOnly_propertyProblems (p : Property) (rest : Text) :
    QuoteOnly (Text.words rest) (propertyProblems p rest) := by
  unfold propertyProblems
  split
  · exact quoteOnly_nil
  · rw [textProblems]
    split_ifs <;> simp [Problem.quotedWord?]
  · exact quoteOnly_numberProblems _ rest

theorem quoteOnly_keywordProblems (keyword rest : Text) :
    QuoteOnly (Text.words rest) (keywordProblems keyword rest) := by
  rw [keywordProblems]
  split_ifs
  · simp [Problem.quotedWord?]
  · simp [Problem.quotedWord?]
  · exact quoteOnly_fontSizeProblems rest
  · exact quoteOnly_beamProblems rest
  · split
    · exact quoteOnly_colorProblems _ rest
    · split
      · exact quoteOnly_propertyProblems _ rest
      · exact quoteOnly_nil

/-- What the findings on a line quote are words of the line. -/
theorem quoteOnly_lineProblems (line : Text) :
    QuoteOnly (Text.words line) (lineProblems line) := by
  rw [lineProblems]
  split
  · next keyword rest hfirst =>
    intro q hq word hword
    rw [Text.words_of_firstWord? hfirst]
    exact List.mem_cons_of_mem _ (quoteOnly_keywordProblems keyword rest q hq word hword)
  · exact quoteOnly_nil

end Check

/-! ### What a check finds -/

namespace Filter

variable {filter : Text} {d : Diagnostic} {c : Char}

/-- What the findings of a check quote holds no blank. -/
theorem isBlank_of_mem_quotedWord? (h : d ∈ (check filter).diagnostics) {word : Text}
    (hword : d.problem.quotedWord? = some word) (hc : c ∈ word) : isBlank c = false := by
  rcases mem_check_iff.mp h with h | h | h
  -- the findings on the order of lines quote nothing
  · obtain ⟨p, -, rfl⟩ := List.mem_map.mp h
    cases hword
  · obtain ⟨b, -, rfl⟩ := List.mem_map.mp h
    rw [emptyBlockFinding] at hword
    split at hword <;> cases hword
  · obtain ⟨p, -, hp⟩ := List.mem_flatMap.mp h
    obtain ⟨q, hq, rfl⟩ := List.mem_map.mp hp
    exact Text.isBlank_of_mem_words (Check.quoteOnly_lineProblems _ q hq word hword) hc

/-- The wording of what a check finds holds no character that could break a line. -/
theorem not_mem_message_of_mem_check (h : d ∈ (check filter).diagnostics)
    (hcontrol : c.toNat < 0x20) (hblank : isBlank c = true) : c ∉ d.problem.message := by
  intro hc
  obtain ⟨word, hword, hmem⟩ := Problem.mem_message hcontrol hc
  have := isBlank_of_mem_quotedWord? h hword hmem
  rw [hblank] at this
  exact Bool.noConfusion this

end Filter

end LootFilter
