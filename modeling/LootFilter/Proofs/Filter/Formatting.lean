import LootFilter.Proofs.Filter.FirstMatch
import Mathlib.Data.List.Forall2

/-!
# Formatting

A line of a filter is looked at twice: trimmed as it stands, for whether it is a header, and without
its comment for everything else. Blanks around a line and comments behind it change neither view, as
long as no comment is put behind a header. Carriage returns are blanks, so the kind of line ends
does not matter, either.

A line that says nothing is no header and adds nothing to a block, so more of them only move the
blocks down. The verdicts stay the same but for their lines.

## Main definitions

* `Line.Reformatted` — a line with blanks around it and comments behind it
* `Line.SaysNothing`, `Filter.Padded` — a blank line or a comment, lines with more of them in
  between
* `Line.SameReading` — lines that are the same in both views
* `Block.unnumbered` — a block, wherever it stands

## Main results

* `Line.Reformatted.sameReading` — formatting changes neither view of a line
* `Filter.blocks_congr` — the blocks depend on the views of the lines alone
* `Filter.map_unnumbered_blocks_of_padded` — lines that say nothing only move blocks down
-/

namespace LootFilter

/-! ### The two views of a line -/

namespace Text

variable {s raw : Text}

theorem withoutComment_append_of_isBlank (h : ∀ c ∈ s, isBlank c = true) (raw : Text) :
    withoutComment (raw ++ s) = withoutComment raw := by
  rw [withoutComment, withoutComment, List.takeWhile_append]
  split
  next hall =>
    -- without a comment the blanks stand behind the text that is trimmed
    have hraw : raw.takeWhile (· ≠ '#') = raw :=
      (List.takeWhile_prefix _).eq_of_length hall
    have hblank : ∀ c ∈ s.takeWhile (· ≠ '#'), isBlank c = true :=
      fun c hc => h c ((List.takeWhile_prefix _).subset hc)
    rw [hraw, trim_append_of_isBlank hblank]
  next => rfl

theorem withoutComment_append_of_isBlank_left (h : ∀ c ∈ s, isBlank c = true) (raw : Text) :
    withoutComment (s ++ raw) = withoutComment raw := by
  have hkeep : ∀ c ∈ s, decide (c ≠ '#') = true := by
    intro c hc
    refine decide_eq_true ?_
    rintro rfl
    exact absurd (h '#' hc) (by decide)
  -- the comment begins where it began, behind the blanks
  rw [withoutComment, List.takeWhile_append_of_pos hkeep, trim_append_of_isBlank_left h,
    withoutComment]

theorem withoutComment_append_comment (raw note : Text) :
    withoutComment (raw ++ '#' :: note) = withoutComment raw := by
  rw [withoutComment, withoutComment, List.takeWhile_append]
  split
  next hall =>
    have hraw : raw.takeWhile (· ≠ '#') = raw :=
      (List.takeWhile_prefix _).eq_of_length hall
    rw [hraw, List.takeWhile_cons_of_neg (by simp), List.append_nil]
  next => rfl

end Text

namespace Line

/-- Lines that are the same in both views. -/
structure SameReading (raw raw' : Text) : Prop where
  header : Visibility.ofLine? raw = Visibility.ofLine? raw'
  content : Text.withoutComment raw = Text.withoutComment raw'

/-- A line with blanks put around it and, unless it is a header, comments put behind it, any number
of times. Line feeds end lines and are not put into one. -/
inductive Reformatted (raw : Text) : Text → Prop
  | refl : Reformatted raw raw
  | blanksInFront {s edited : Text} (hs : ∀ c ∈ s, isBlank c = true ∧ c ≠ '\n')
      (h : Reformatted raw edited) : Reformatted raw (s ++ edited)
  | blanksBehind {s edited : Text} (hs : ∀ c ∈ s, isBlank c = true ∧ c ≠ '\n')
      (h : Reformatted raw edited) : Reformatted raw (edited ++ s)
  | comment {note edited : Text} (hraw : isHeader raw = false) (hnote : '\n' ∉ note)
      (h : Reformatted raw edited) : Reformatted raw (edited ++ '#' :: note)

/-- A line that says nothing: in front of its comment, if it has one, there are only blanks. -/
def SaysNothing (raw : Text) : Prop := ∀ c ∈ raw.takeWhile (· ≠ '#'), isBlank c = true

instance (raw : Text) : Decidable (SaysNothing raw) :=
  decidable_of_iff ((raw.takeWhile (· ≠ '#')).all isBlank = true) List.all_eq_true

variable {raw edited s : Text}

theorem SameReading.trans {a b c : Text} (h : SameReading a b) (h' : SameReading b c) :
    SameReading a c :=
  ⟨h.header.trans h'.header, h.content.trans h'.content⟩

theorem SameReading.symm {a b : Text} (h : SameReading a b) : SameReading b a :=
  ⟨h.header.symm, h.content.symm⟩

theorem saysNothing_iff : SaysNothing raw ↔ Text.withoutComment raw = [] :=
  Text.trim_eq_nil_iff.symm

theorem ofLine?_congr {a b : Text} (h : Text.trim a = Text.trim b) :
    Visibility.ofLine? a = Visibility.ofLine? b := by
  rw [Visibility.ofLine?, Visibility.ofLine?, h]

theorem sameReading_blanksBehind (h : ∀ c ∈ s, isBlank c = true) (raw : Text) :
    SameReading (raw ++ s) raw :=
  ⟨ofLine?_congr (Text.trim_append_of_isBlank h raw), Text.withoutComment_append_of_isBlank h raw⟩

theorem sameReading_blanksInFront (h : ∀ c ∈ s, isBlank c = true) (raw : Text) :
    SameReading (s ++ raw) raw :=
  ⟨ofLine?_congr (Text.trim_append_of_isBlank_left h raw),
    Text.withoutComment_append_of_isBlank_left h raw⟩

/-- A line with a comment is no header. -/
theorem ofLine?_append_comment (raw note : Text) :
    Visibility.ofLine? (raw ++ '#' :: note) = none := by
  rw [Option.eq_none_iff_forall_ne_some]
  intro v hv
  have hmem : '#' ∈ Text.trim (raw ++ '#' :: note) :=
    Text.mem_trim_of_not_isBlank (by simp) (by decide)
  rw [Visibility.ofLine?_eq_some_iff.1 hv] at hmem
  cases v <;> exact absurd hmem (by decide)

/-- Formatting changes neither view of a line. -/
theorem Reformatted.sameReading (h : Reformatted raw edited) : SameReading edited raw := by
  induction h with
  | refl => exact ⟨rfl, rfl⟩
  | blanksInFront hs _ ih =>
    exact (sameReading_blanksInFront (fun c hc => (hs c hc).1) _).trans ih
  | blanksBehind hs _ ih =>
    exact (sameReading_blanksBehind (fun c hc => (hs c hc).1) _).trans ih
  | comment hraw _ _ ih =>
    -- the line was no header, and with a comment it still is none
    have hnone : Visibility.ofLine? raw = none := by simpa [isHeader] using hraw
    exact ⟨(ofLine?_append_comment _ _).trans hnone.symm,
      (Text.withoutComment_append_comment _ _).trans ih.content⟩

theorem Reformatted.not_mem_newline (h : Reformatted raw edited) (hraw : '\n' ∉ raw) :
    '\n' ∉ edited := by
  induction h with
  | refl => exact hraw
  | blanksInFront hs _ ih =>
    rw [List.mem_append]
    rintro (hmem | hmem)
    · exact (hs _ hmem).2 rfl
    · exact ih hmem
  | blanksBehind hs _ ih =>
    rw [List.mem_append]
    rintro (hmem | hmem)
    · exact ih hmem
    · exact (hs _ hmem).2 rfl
  | comment _ hnote _ ih =>
    rw [List.mem_append, List.mem_cons]
    rintro (hmem | hmem | hmem)
    · exact ih hmem
    · exact absurd hmem (by decide)
    · exact hnote hmem

end Line

/-! ### Line ends -/

theorem isBlank_return : isBlank '\r' = true := by decide

namespace Text

/-- A line without the carriage return of its end. -/
def withoutReturn (l : Text) : Text := (dropReturn l.reverse).reverse

theorem exists_eq_withoutReturn_append (l : Text) :
    ∃ s, l = withoutReturn l ++ s ∧ ∀ c ∈ s, isBlank c = true := by
  rcases List.eq_nil_or_concat l with rfl | ⟨init, c, rfl⟩
  · exact ⟨[], rfl, by simp⟩
  · by_cases hc : c = '\r'
    · subst hc
      have hblank : ∀ c ∈ ['\r'], isBlank c = true := List.forall_mem_singleton.2 isBlank_return
      exact ⟨['\r'], by simp [withoutReturn, dropReturn], hblank⟩
    · refine ⟨[], ?_, by simp⟩
      unfold withoutReturn dropReturn
      split <;> simp_all

theorem sameReading_withoutReturn (l : Text) : Line.SameReading (withoutReturn l) l := by
  obtain ⟨s, hs, hblank⟩ := exists_eq_withoutReturn_append l
  have h := Line.sameReading_blanksBehind hblank (withoutReturn l)
  rw [← hs] at h
  exact h.symm

theorem lines_unlines_cons {l : Text} (h : '\n' ∉ l) (ls : List Text) :
    lines (unlines (l :: ls)) = withoutReturn l :: lines (unlines ls) := by
  have hcons : unlines (l :: ls) = l ++ '\n' :: unlines ls := by simp [unlines]
  rw [hcons, lines_append_newline h]
  rfl

/-- A carriage return in front of each line feed is a blank behind each line. -/
theorem flatMap_returnNewline (ls : List Text) :
    ls.flatMap (· ++ ("\r\n" : Text)) = unlines (ls.map (· ++ ['\r'])) := by
  simp [unlines, List.flatMap_map]

end Text

/-- A block, wherever it stands. -/
def Block.unnumbered (b : Block) : Block := { b with line := 0 }

namespace Filter

/-- Some lines, and the same lines with lines that say nothing in between. -/
inductive Padded : List Text → List Text → Prop
  | nil : Padded [] []
  | keep (raw : Text) {ls ms : List Text} (h : Padded ls ms) : Padded (raw :: ls) (raw :: ms)
  | insert {raw : Text} (hraw : Line.SaysNothing raw) {ls ms : List Text} (h : Padded ls ms) :
      Padded ls (raw :: ms)

variable {ls ms : List Text}

theorem sameReading_lines_of_reformatted (hls : ∀ l ∈ ls, '\n' ∉ l)
    (h : List.Forall₂ Line.Reformatted ls ms) :
    List.Forall₂ Line.SameReading (Text.lines (Text.unlines ms))
      (Text.lines (Text.unlines ls)) := by
  induction h with
  | nil => exact .nil
  | @cons raw edited _ _ hraw _ ih =>
    have hnewline := hls raw List.mem_cons_self
    rw [Text.lines_unlines_cons hnewline, Text.lines_unlines_cons (hraw.not_mem_newline hnewline)]
    -- the ends of both lines are cut off, which changes the views of neither
    have hsame : Line.SameReading (Text.withoutReturn edited) (Text.withoutReturn raw) :=
      (Text.sameReading_withoutReturn edited).trans
        (hraw.sameReading.trans (Text.sameReading_withoutReturn raw).symm)
    exact .cons hsame (ih fun l hl => hls l (List.mem_cons_of_mem raw hl))

theorem padded_lines_of_padded (hms : ∀ m ∈ ms, '\n' ∉ m) (h : Padded ls ms) :
    Padded (Text.lines (Text.unlines ls)) (Text.lines (Text.unlines ms)) := by
  induction h with
  | nil => exact .nil
  | keep raw _ ih =>
    have hnewline := hms raw List.mem_cons_self
    rw [Text.lines_unlines_cons hnewline, Text.lines_unlines_cons hnewline]
    exact .keep _ (ih fun m hm => hms m (List.mem_cons_of_mem raw hm))
  | @insert raw hraw _ _ _ ih =>
    rw [Text.lines_unlines_cons (hms raw List.mem_cons_self)]
    have hnothing : Line.SaysNothing (Text.withoutReturn raw) := by
      rw [Line.saysNothing_iff, (Text.sameReading_withoutReturn raw).content]
      exact Line.saysNothing_iff.1 hraw
    exact .insert hnothing (ih fun m hm => hms m (List.mem_cons_of_mem raw hm))

/-! ### Blocks -/

theorem step_congr {raw raw' : Text} (h : Line.SameReading raw raw') (state : List Block)
    (n : Nat) : step state (raw, n) = step state (raw', n) := by
  simp only [step, h.header, h.content]

theorem foldl_step_congr (h : List.Forall₂ Line.SameReading ls ms) (n : Nat) (state : List Block) :
    (ls.zipIdx n).foldl step state = (ms.zipIdx n).foldl step state := by
  induction h generalizing n state with
  | nil => rfl
  | cons hraw _ ih =>
    rw [List.zipIdx_cons, List.zipIdx_cons, List.foldl_cons, List.foldl_cons, step_congr hraw, ih]

/-- The blocks depend on the views of the lines alone. -/
theorem blocks_congr {filter filter' : Text}
    (h : List.Forall₂ Line.SameReading (Text.lines filter) (Text.lines filter')) :
    blocks filter = blocks filter' := by
  rw [blocks, blocks, Text.numberedLines, Text.numberedLines, foldl_step_congr h]

/-- The pass can be made without numbers. -/
theorem map_unnumbered_foldl_step (n : Nat) (ls : List Text) (state : List Block) :
    ((ls.zipIdx n).foldl step state).map Block.unnumbered =
      (ls.map (·, 0)).foldl step (state.map Block.unnumbered) := by
  induction ls generalizing n state with
  | nil => rfl
  | cons raw rest ih =>
    rw [List.zipIdx_cons, List.foldl_cons, ih, List.map_cons, List.foldl_cons]
    congr 1
    -- a header puts its number into a new block, and no line reads the number of a block
    unfold step
    cases Visibility.ofLine? raw with
    | some v => rfl
    | none =>
      cases state with
      | nil => rfl
      | cons b earlier =>
        cases Line.classify (Text.withoutComment raw) <;> rfl

theorem step_of_saysNothing {raw : Text} (h : Line.SaysNothing raw) (state : List Block) (n : Nat) :
    step state (raw, n) = state := by
  have hblank := Line.saysNothing_iff.1 h
  have hheader : Visibility.ofLine? raw = none := by
    simpa [Line.isHeader] using Line.isHeader_of_blank hblank
  have hother : Line.classify [] = .other := rfl
  unfold step
  rw [hheader, hblank, hother]
  cases state <;> rfl

theorem foldl_step_of_padded (h : Padded ls ms) (state : List Block) :
    (ms.map (·, 0)).foldl step state = (ls.map (·, 0)).foldl step state := by
  -- between the two passes nothing happens to the blocks, so both go on from the same state
  induction h generalizing state with
  | nil => rfl
  | keep raw _ ih => exact ih (step state (raw, 0))
  | insert hraw _ ih => rw [List.map_cons, List.foldl_cons, step_of_saysNothing hraw, ih]

/-- Lines that say nothing only move blocks down. -/
theorem map_unnumbered_blocks_of_padded {filter filter' : Text}
    (h : Padded (Text.lines filter) (Text.lines filter')) :
    (blocks filter').map Block.unnumbered = (blocks filter).map Block.unnumbered := by
  rw [blocks, blocks, List.map_reverse, List.map_reverse, Text.numberedLines, Text.numberedLines,
    map_unnumbered_foldl_step, map_unnumbered_foldl_step, foldl_step_of_padded h]

/-! ### Verdicts -/

/-- Where the blocks stand plays no part in what a verdict says about an item. -/
theorem isHidden_and_style_verdictOf_map (bs : List Block) (i : Item) :
    (verdictOf (bs.map Block.unnumbered) i).isHidden = (verdictOf bs i).isHidden ∧
      (verdictOf (bs.map Block.unnumbered) i).style = (verdictOf bs i).style := by
  have happlies : (Block.applies · i) ∘ Block.unnumbered = (Block.applies · i) := rfl
  unfold verdictOf firstMatch?
  rw [List.find?_map, happlies]
  split
  · cases bs.find? (·.applies i) <;> exact ⟨rfl, rfl⟩
  · exact ⟨rfl, rfl⟩

theorem isHidden_and_style_verdict_of_padded {filter filter' : Text}
    (h : Padded (Text.lines filter) (Text.lines filter')) (i : Item) :
    (verdict filter' i).isHidden = (verdict filter i).isHidden ∧
      (verdict filter' i).style = (verdict filter i).style := by
  -- both verdicts are compared with the one of the blocks without their numbers
  have h₁ := isHidden_and_style_verdictOf_map (blocks filter) i
  have h₂ := isHidden_and_style_verdictOf_map (blocks filter') i
  rw [map_unnumbered_blocks_of_padded h] at h₂
  rw [verdict_eq, verdict_eq]
  exact ⟨h₂.1.symm.trans h₁.1, h₂.2.symm.trans h₁.2⟩

end Filter

end LootFilter
