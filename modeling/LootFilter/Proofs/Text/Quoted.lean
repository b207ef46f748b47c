import LootFilter.Line.Quoted
import LootFilter.Proofs.Text.Words

/-!
# Tidy texts

The names that a condition line holds are its words or its quoted segments. Either way they are
tidy: they are not blank, and no blanks surround them. A tidy text in quotes is read as it stands,
while the blanks of an untidy one are lost.

## Main definitions

* `Text.IsTidy` — a text that is not blank and has no blanks around it

## Main results

* `Text.isTidy_of_mem_words`, `Text.isTidy_of_mem_quotedSegments` — words and segments are tidy
* `Text.keepSegment_of_trim_ne_nil` — a segment is kept without the blanks around it
* `Text.quotedSegments_trim` — blanks around a text are part of no segment
-/

namespace LootFilter.Text

variable {s t : Text}

/-- A text that is not blank and has no blanks around it. -/
structure IsTidy (t : Text) : Prop where
  trim_eq : trim t = t
  ne_nil : t ≠ []

theorem IsTidy.trim (h : Text.trim t ≠ []) : (Text.trim t).IsTidy := ⟨trim_trim t, h⟩

theorem IsTidy.isBlank_of_mem_head? (h : t.IsTidy) {c : Char} (hc : c ∈ t.head?) :
    isBlank c = false :=
  Text.isBlank_of_mem_head? h.trim_eq hc

theorem IsTidy.isBlank_of_mem_getLast? (h : t.IsTidy) {c : Char} (hc : c ∈ t.getLast?) :
    isBlank c = false := by
  obtain ⟨init, rfl⟩ := List.getLast?_eq_some_iff.1 hc
  by_contra hblank
  -- a blank at the end would have been trimmed away
  have htrim : trimEnd (init ++ [c]) = trimEnd init :=
    trimEnd_append_of_isBlank (by simpa using hblank) init
  obtain ⟨s, hs, -⟩ := exists_eq_trimEnd_append init
  rw [← htrim, trimEnd_of_trim h.trim_eq] at hs
  simpa using congrArg List.length hs

theorem isTidy_of_forall_not_isBlank (h : ∀ c ∈ t, isBlank c = false) (hne : t ≠ []) : t.IsTidy :=
  ⟨trim_of_forall_not_isBlank h, hne⟩

/-- Tidy texts with a space in between are tidy. -/
theorem IsTidy.append_space (hs : s.IsTidy) (ht : t.IsTidy) : (s ++ ' ' :: t).IsTidy := by
  obtain ⟨c, s', rfl⟩ := List.exists_cons_of_ne_nil hs.ne_nil
  have hc : isBlank c = false := hs.isBlank_of_mem_head? rfl
  refine ⟨?_, List.cons_ne_nil _ _⟩
  rw [List.append_cons]
  exact trim_cons_append hc (s' ++ [' ']) ht.trim_eq ht.ne_nil

theorem IsTidy.not_isBlankText (h : t.IsTidy) : t.isBlankText = false := by
  obtain ⟨c, t', rfl⟩ := List.exists_cons_of_ne_nil h.ne_nil
  have hc : isBlank c = false := h.isBlank_of_mem_head? rfl
  simp [isBlankText, hc]

theorem isTidy_of_mem_words (h : s ∈ words t) : s.IsTidy :=
  isTidy_of_forall_not_isBlank (fun _ hc => isBlank_of_mem_words h hc) (ne_nil_of_mem_words h)

theorem isTidy_of_mem_keepSegment {segment : Text} {later : List Text}
    (h : s ∈ keepSegment segment later) : s.IsTidy ∨ s ∈ later := by
  unfold keepSegment at h
  split at h
  · exact Or.inr h
  next hne =>
    rcases List.mem_cons.1 h with rfl | h
    · exact Or.inl (IsTidy.trim hne)
    · exact Or.inr h

/-- Segments are tidy, from whatever state the text is read. -/
theorem isTidy_of_mem_segmentsFrom {state : Option Text} (h : s ∈ segmentsFrom state t) :
    s.IsTidy := by
  induction t generalizing state with
  | nil => cases state <;> exact absurd h List.not_mem_nil
  | cons c t ih =>
    cases state with
    | none => exact ih h
    | some segment =>
      rw [segmentsFrom] at h
      split_ifs at h
      · -- the closing quote adds the segment that it ends, if it adds one
        exact (isTidy_of_mem_keepSegment h).elim id ih
      · exact ih h

theorem isTidy_of_mem_quotedSegments (h : s ∈ quotedSegments t) : s.IsTidy :=
  isTidy_of_mem_segmentsFrom h

/-- A segment that is not blank is kept without the blanks around it. -/
theorem keepSegment_of_trim_ne_nil (h : Text.trim t ≠ []) (later : List Text) :
    keepSegment t.reverse later = Text.trim t :: later := by
  unfold keepSegment
  rw [List.reverse_reverse]
  split
  · exact absurd ‹_› h
  · rfl

/-- A blank segment is not kept. -/
theorem keepSegment_of_trim_eq_nil (h : Text.trim t = []) (later : List Text) :
    keepSegment t.reverse later = later := by
  unfold keepSegment
  rw [List.reverse_reverse, h]

/-! ### Blanks around a text -/

/-- A quote is no blank. -/
theorem quote_not_mem_of_isBlank (h : ∀ c ∈ t, isBlank c = true) : '"' ∉ t :=
  fun hmem => absurd (h _ hmem) (by decide)

/-- What stands behind a text and holds no quote closes no segment. -/
theorem segmentsFrom_append_of_not_mem (h : '"' ∉ s) (state : Option Text) (t : Text) :
    segmentsFrom state (t ++ s) = segmentsFrom state t := by
  induction t generalizing state with
  | nil =>
    cases state with
    | none => exact quotedSegments_of_not_mem h
    | some segment =>
      have hopen := segmentsFrom_some_append h segment []
      rw [List.append_nil] at hopen
      exact hopen
  | cons c t ih =>
    cases state with
    | none => exact ih _
    | some segment =>
      rw [List.cons_append, segmentsFrom, segmentsFrom, ih none, ih (some (c :: segment))]

/-- Blanks around a text are part of no segment. -/
@[simp] theorem quotedSegments_trim (t : Text) :
    quotedSegments (Text.trim t) = quotedSegments t := by
  obtain ⟨behind, hbehind, hblank⟩ := exists_eq_trimEnd_append (trimStart t)
  have hfront : '"' ∉ t.takeWhile isBlank :=
    quote_not_mem_of_isBlank (List.all_eq_true.1 List.all_takeWhile)
  calc quotedSegments (Text.trim t)
      = quotedSegments (Text.trim t ++ behind) :=
        (segmentsFrom_append_of_not_mem (quote_not_mem_of_isBlank hblank) none _).symm
    _ = quotedSegments (trimStart t) := by rw [Text.trim, ← hbehind]
    _ = quotedSegments (t.takeWhile isBlank ++ trimStart t) :=
        (segmentsFrom_none_append hfront _).symm
    _ = quotedSegments t := by rw [trimStart, List.takeWhile_append_dropWhile]

end LootFilter.Text
