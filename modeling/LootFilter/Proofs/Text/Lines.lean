import LootFilter.Text.Lines

/-!
# Lines taken from a text

Lines are deleted from a text together with their line ends. What remains is a text again, and its
lines are the lines that remain: the text in front of the deleted lines ends with a line feed, so
what stands behind them begins on a line of its own.

## Main definitions

* `Text.takeLines`, `Text.dropLines` — a text up to a line end, and behind it
* `Text.withoutLines` — a text from which some lines have been deleted

## Main results

* `Text.lines_takeLines`, `Text.lines_dropLines` — the lines of the two parts of a text
* `Text.lines_withoutLines` — the lines that remain
-/

namespace LootFilter.Text

/-- The first `n` lines of a text, with their line ends. -/
def takeLines : Nat → Text → Text
  | 0, _ => []
  | _ + 1, [] => []
  | n + 1, c :: t => c :: takeLines (if c = '\n' then n else n + 1) t

/-- A text without its first `n` lines. -/
def dropLines : Nat → Text → Text
  | 0, t => t
  | _ + 1, [] => []
  | n + 1, c :: t => dropLines (if c = '\n' then n else n + 1) t

/-- A text without the `count` lines behind its first `above` lines. -/
def withoutLines (above count : Nat) (t : Text) : Text :=
  takeLines above t ++ dropLines (above + count) t

variable {l : Text}

@[simp] theorem takeLines_zero (t : Text) : takeLines 0 t = [] := by
  cases t <;> rfl

@[simp] theorem dropLines_zero (t : Text) : dropLines 0 t = t := by
  cases t <;> rfl

@[simp] theorem dropLines_nil (n : Nat) : dropLines n [] = [] := by
  cases n <;> rfl

/-- A beginning without line feeds belongs to the first line. -/
theorem takeLines_append (h : '\n' ∉ l) (n : Nat) (t : Text) :
    takeLines (n + 1) (l ++ t) = l ++ takeLines (n + 1) t := by
  induction l with
  | nil => rfl
  | cons c l ih =>
    simp only [List.mem_cons, not_or] at h
    simp [takeLines, Ne.symm h.1, ih h.2]

theorem dropLines_append (h : '\n' ∉ l) (n : Nat) (t : Text) :
    dropLines (n + 1) (l ++ t) = dropLines (n + 1) t := by
  induction l with
  | nil => rfl
  | cons c l ih =>
    simp only [List.mem_cons, not_or] at h
    simp [dropLines, Ne.symm h.1, ih h.2]

theorem takeLines_append_newline (h : '\n' ∉ l) (n : Nat) (t : Text) :
    takeLines (n + 1) (l ++ '\n' :: t) = l ++ '\n' :: takeLines n t :=
  takeLines_append h n ('\n' :: t)

theorem dropLines_append_newline (h : '\n' ∉ l) (n : Nat) (t : Text) :
    dropLines (n + 1) (l ++ '\n' :: t) = dropLines n t :=
  dropLines_append h n ('\n' :: t)

theorem takeLines_of_not_mem (h : '\n' ∉ l) (n : Nat) : takeLines (n + 1) l = l := by
  simpa [takeLines] using takeLines_append h n []

theorem dropLines_of_not_mem (h : '\n' ∉ l) (n : Nat) : dropLines (n + 1) l = [] := by
  simpa using dropLines_append h n []

theorem dropLines_add (m n : Nat) (t : Text) :
    dropLines (m + n) t = dropLines n (dropLines m t) := by
  induction t generalizing m with
  | nil => simp only [dropLines_nil]
  | cons c t ih =>
    cases m with
    | zero => rw [Nat.zero_add, dropLines_zero]
    | succ m =>
      rw [Nat.add_right_comm, dropLines, dropLines, ← ih]
      by_cases h : c = '\n'
      · rw [if_pos h, if_pos h]
      · rw [if_neg h, if_neg h, Nat.add_right_comm]

theorem length_lines_le_of_not_mem (h : '\n' ∉ l) : (lines l).length ≤ 1 := by
  rw [lines_of_not_mem h]
  split <;> simp

/-- The lines up to a line end are the first lines of the text. -/
theorem lines_takeLines (n : Nat) (t : Text) : lines (takeLines n t) = (lines t).take n := by
  induction n generalizing t with
  | zero => rw [takeLines_zero, lines_nil, List.take_zero]
  | succ n ih =>
    by_cases hmem : '\n' ∈ t
    · obtain ⟨l, rest, rfl, hl⟩ := List.eq_append_cons_of_mem hmem
      rw [takeLines_append_newline hl, lines_append_newline hl, lines_append_newline hl, ih,
        List.take_succ_cons]
    · have hlength := length_lines_le_of_not_mem hmem
      rw [takeLines_of_not_mem hmem, List.take_of_length_le (by omega)]

/-- The lines behind a line end are the other lines of the text. -/
theorem lines_dropLines (n : Nat) (t : Text) : lines (dropLines n t) = (lines t).drop n := by
  induction n generalizing t with
  | zero => rw [dropLines_zero, List.drop_zero]
  | succ n ih =>
    by_cases hmem : '\n' ∈ t
    · obtain ⟨l, rest, rfl, hl⟩ := List.eq_append_cons_of_mem hmem
      rw [dropLines_append_newline hl, lines_append_newline hl, ih, List.drop_succ_cons]
    · have hlength := length_lines_le_of_not_mem hmem
      rw [dropLines_of_not_mem hmem, List.drop_of_length_le (by omega), lines_nil]

/-- A cut between lines is behind a line feed, unless the text is over there. -/
theorem endsLine_takeLines (n : Nat) (t : Text) :
    EndsLine (takeLines n t) ∨ dropLines n t = [] := by
  induction n generalizing t with
  | zero => exact Or.inl (Or.inl (takeLines_zero t))
  | succ n ih =>
    by_cases hmem : '\n' ∈ t
    · obtain ⟨l, rest, rfl, hl⟩ := List.eq_append_cons_of_mem hmem
      rw [takeLines_append_newline hl, dropLines_append_newline hl]
      refine (ih rest).imp_left fun hends => Or.inr ?_
      rcases hends with hnil | hlast
      · simp [hnil]
      · rw [List.getLast?_append, List.getLast?_cons, hlast]
        rfl
    · exact Or.inr (dropLines_of_not_mem hmem n)

/-- The lines that remain are those above and those below the deleted ones. -/
theorem lines_withoutLines (above count : Nat) (t : Text) :
    lines (withoutLines above count t) =
      (lines t).take above ++ (lines t).drop (above + count) := by
  rw [← lines_takeLines, ← lines_dropLines, withoutLines]
  rcases endsLine_takeLines above t with hends | hover
  · exact lines_append hends _
  · rw [dropLines_add, hover, dropLines_nil, lines_nil, List.append_nil, List.append_nil]

end LootFilter.Text
