import LootFilter.Text.Basic

/-!
# Lines

A line ends at a line feed; one carriage return in front of the line feed belongs to the line's
end. What follows the last line feed is a line too, unless it is empty. The text is read in a
single pass from left to right.

## Main definitions

* `Text.lines` — the lines of a text
* `Text.numberedLines` — the same with the numbers 1, 2, 3, …
* `Text.unlines` — each line followed by a line feed

## Main results

* `Text.lines_append_newline` — a line in front of a text
* `Text.lines_append` — texts that end with a line feed can be read apart
* `Text.lines_unlines` — lines without line ends are read back
-/

namespace LootFilter.Text

/-- A line without a carriage return at its end; the line is given with its last character
first. -/
def dropReturn : Text → Text
  | '\r' :: line => line
  | line => line

/-- One character of the pass over a text. The state holds the finished lines, the latest first,
and the characters of the current line, the latest first. -/
def lineStep (state : List Text × Text) (c : Char) : List Text × Text :=
  if c = '\n' then ((dropReturn state.2).reverse :: state.1, []) else (state.1, c :: state.2)

/-- The lines of the state at the end of a text. -/
def lineEnd (state : List Text × Text) : List Text :=
  (if state.2.isEmpty then state.1 else state.2.reverse :: state.1).reverse

/-- The lines of a text. -/
def lines (t : Text) : List Text := lineEnd (t.foldl lineStep ([], []))

/-- The lines of a text with their numbers, the first line being number 1. -/
def numberedLines (t : Text) : List (Text × Nat) := (lines t).zipIdx 1

/-- The text in which each of the lines is followed by a line feed. -/
def unlines (ls : List Text) : Text := ls.flatMap fun l => l ++ ['\n']

@[simp] theorem lines_nil : lines [] = [] := rfl

/-- Characters other than line feeds join the current line. -/
theorem foldl_lineStep_of_not_mem {l : Text} (h : '\n' ∉ l) (done : List Text) (current : Text) :
    l.foldl lineStep (done, current) = (done, l.reverse ++ current) := by
  induction l generalizing current with
  | nil => rfl
  | cons c l ih =>
    simp only [List.mem_cons, not_or] at h
    simp [lineStep, Ne.symm h.1, ih h.2]

/-- Lines finished earlier stay in front. -/
theorem lineEnd_foldl_lineStep (t : Text) (done : List Text) (current : Text) :
    lineEnd (t.foldl lineStep (done, current)) =
      done.reverse ++ lineEnd (t.foldl lineStep ([], current)) := by
  induction t generalizing done current with
  | nil => by_cases h : current = [] <;> simp [lineEnd, h]
  | cons c t ih =>
    by_cases h : c = '\n'
    · simp only [List.foldl_cons, lineStep, h, if_true]
      rw [ih, ih [_]]
      simp
    · simp only [List.foldl_cons, lineStep, h, if_false]
      exact ih done (c :: current)

/-- A line, its line feed and the rest of the text. -/
theorem lines_append_newline {l : Text} (h : '\n' ∉ l) (t : Text) :
    lines (l ++ '\n' :: t) = (dropReturn l.reverse).reverse :: lines t := by
  simp only [lines, List.foldl_append, foldl_lineStep_of_not_mem h, List.foldl_cons, lineStep,
    if_true]
  rw [lineEnd_foldl_lineStep]
  simp

/-- A text without a line feed is a single line, unless it is empty. -/
theorem lines_of_not_mem {l : Text} (h : '\n' ∉ l) : lines l = if l.isEmpty then [] else [l] := by
  by_cases e : l = [] <;> simp [lines, foldl_lineStep_of_not_mem h, lineEnd, e]

/-- A text ends a line if it is empty or its last character is a line feed. -/
def EndsLine (t : Text) : Prop := t = [] ∨ t.getLast? = some '\n'

/-- After a text that ends a line, the pass begins a new line. -/
theorem foldl_lineStep_of_endsLine {t : Text} (h : EndsLine t) :
    (t.foldl lineStep ([], [])).2 = [] := by
  rcases h with rfl | h
  · rfl
  · obtain ⟨init, rfl⟩ : ∃ init, t = init ++ ['\n'] := by
      obtain ⟨init, hi⟩ := List.getLast?_eq_some_iff.1 h
      exact ⟨init, hi⟩
    simp [List.foldl_append, lineStep]

/-- A text that ends a line can be cut off: its lines come first. -/
theorem lines_append {t : Text} (h : EndsLine t) (u : Text) :
    lines (t ++ u) = lines t ++ lines u := by
  have e := foldl_lineStep_of_endsLine h
  generalize hs : t.foldl lineStep ([], []) = s at e
  obtain ⟨done, current⟩ := s
  subst e
  simp only [lines, List.foldl_append, hs]
  rw [lineEnd_foldl_lineStep]
  simp [lineEnd]

/-- A line that does not end with a carriage return has none to drop. -/
theorem dropReturn_reverse {l : Text} (h : l.getLast? ≠ some '\r') :
    dropReturn l.reverse = l.reverse := by
  unfold dropReturn
  split
  · next hreverse =>
    rw [List.getLast?_eq_head?_reverse, hreverse] at h
    exact absurd rfl h
  · rfl

/-- Lines that hold no line end are read back from the text that they make up. -/
theorem lines_unlines {ls : List Text} (h : ∀ l ∈ ls, '\n' ∉ l ∧ l.getLast? ≠ some '\r') :
    lines (unlines ls) = ls := by
  induction ls with
  | nil => rfl
  | cons l ls ih =>
    have hl := h l (by simp)
    have e : unlines (l :: ls) = l ++ '\n' :: unlines ls := by simp [unlines]
    rw [e, lines_append_newline hl.1, ih fun m hm => h m (by simp [hm]),
      dropReturn_reverse hl.2, List.reverse_reverse]

end LootFilter.Text
