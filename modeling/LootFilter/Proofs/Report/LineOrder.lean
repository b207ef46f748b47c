import LootFilter.Proofs.Report.Pass

/-!
# The lines of findings

The findings of a check come in the order of their lines, and each of them stands on a line of the
filter. The order is not quite that of the pass: at a header the pass looks back, and what it finds
there is put on the line above. That line exists, and no earlier finding stands below it. The pass
looks back only from within a block, so the header of the block lies behind it, and so do the lines
of whatever it found before.

## Main definitions

* `Check.Place.IsPlausible` — a place where the pass can stand behind some number of lines

## Main results

* `Check.Place.line_of_mem_findings` — the line of what is found at a line
* `Check.line_of_mem_findingsFrom` — the lines of what is found along some lines
* `Check.pairwise_line_findingsFrom` — what is found along some lines is in order
* `Filter.check_inOrder_and_onLines` — the findings of a check are in order, on lines of the filter
-/

namespace LootFilter

namespace Check

variable {place : Place} {n : Nat} {raw : Text} {ls : List Text} {d : Diagnostic}

namespace Place

/-- A place where the pass can stand behind `n` lines: it is in a block only behind a line. -/
def IsPlausible (place : Place) (n : Nat) : Prop := place ≠ .outside → 0 < n

theorem isPlausible_outside (n : Nat) : Place.outside.IsPlausible n :=
  fun hne => absurd rfl hne

theorem isPlausible_succ (place : Place) (n : Nat) : place.IsPlausible (n + 1) :=
  fun _ => Nat.succ_pos n

/-- The pass goes from plausible places to plausible places. -/
theorem IsPlausible.behind (h : place.IsPlausible n) (ls : List Text) :
    (place.behind ls).IsPlausible (n + ls.length) := by
  cases ls with
  | nil => exact h
  | cons raw rest =>
    rw [length_step, Nat.add_right_comm]
    exact isPlausible_succ _ _

theorem IsPlausible.pos_of_lacksCondition (h : place.IsPlausible n)
    (hlacks : place.lacksCondition = true) : 0 < n := by
  apply h
  rintro rfl
  exact absurd hlacks (by decide)

/-- What is found at a header stands on the line above, and all else on the line itself. -/
theorem line_of_mem_findings (hd : d ∈ place.findings (n + 1) raw) :
    d.line = if Line.isHeader raw then n else n + 1 := by
  unfold findings at hd
  split_ifs at hd with hblank hheader
  · exact absurd hd List.not_mem_nil
  · obtain ⟨-, rfl⟩ := mem_atHeader_iff.1 hd
    rw [if_pos hheader, Nat.add_sub_cancel]
  · rw [if_neg hheader]
    rcases List.mem_append.1 hd with hd | hd
    · obtain ⟨-, rfl⟩ := mem_atLine_iff.1 hd
      rfl
    · obtain ⟨q, -, rfl⟩ := List.mem_map.1 hd
      rfl

/-- Where the pass looks back, there is a line to look back at. -/
theorem IsPlausible.line_pos (h : place.IsPlausible n) (hd : d ∈ place.findings (n + 1) raw) :
    0 < d.line := by
  rw [line_of_mem_findings hd]
  split
  next hheader =>
    rw [findings_of_isHeader hheader] at hd
    exact h.pos_of_lacksCondition (mem_atHeader_iff.1 hd).1
  next => exact Nat.succ_pos n

end Place

/-- What is found along some lines stands on one of them, or else on the line in front of them. -/
theorem line_of_mem_findingsFrom (hd : d ∈ findingsFrom place n ls) :
    n ≤ d.line ∧ d.line ≤ n + ls.length := by
  induction ls generalizing place n with
  | nil => exact absurd hd List.not_mem_nil
  | cons raw rest ih =>
    rw [length_step]
    rcases List.mem_append.1 hd with hd | hd
    · have hline := Place.line_of_mem_findings hd
      split_ifs at hline <;> omega
    · obtain ⟨hlow, hhigh⟩ := ih hd
      omega

theorem Place.IsPlausible.line_pos_of_mem_findingsFrom (h : place.IsPlausible n)
    (hd : d ∈ findingsFrom place n ls) : 0 < d.line := by
  cases ls with
  | nil => exact absurd hd List.not_mem_nil
  | cons raw rest =>
    rcases List.mem_append.1 hd with hd | hd
    · exact h.line_pos hd
    · -- behind the first line the pass never looks back further than to it
      have := (line_of_mem_findingsFrom hd).1
      omega

/-- What is found along some lines is in the order of the lines. -/
theorem pairwise_line_findingsFrom (place : Place) (n : Nat) (ls : List Text) :
    (findingsFrom place n ls).Pairwise (·.line ≤ ·.line) := by
  induction ls generalizing place n with
  | nil => exact List.Pairwise.nil
  | cons raw rest ih =>
    rw [findingsFrom, List.pairwise_append]
    refine ⟨?_, ih _ _, ?_⟩
    · -- all that is found at one line stands on one line
      apply List.pairwise_of_forall_mem_list
      intro d hd d' hd'
      rw [Place.line_of_mem_findings hd, Place.line_of_mem_findings hd']
    · intro d hd d' hd'
      have hline := Place.line_of_mem_findings hd
      have hline' := (line_of_mem_findingsFrom hd').1
      split_ifs at hline <;> omega

end Check

namespace Filter

/-- The closing finding stands on the last line, and if there is one, so is the line. -/
theorem line_of_mem_atEnd {filter : Text} {d : Diagnostic}
    (hd : d ∈ (Check.Place.outside.behind (Text.lines filter)).atEnd (Text.lines filter).length) :
    d.line = (Text.lines filter).length ∧ 0 < (Text.lines filter).length := by
  have hend := (Check.Place.isPlausible_outside 0).behind (Text.lines filter)
  obtain ⟨hlacks, rfl⟩ := Check.Place.mem_atEnd_iff.1 hd
  have hpos := hend.pos_of_lacksCondition hlacks
  exact ⟨rfl, by omega⟩

/-- **The findings of a check are in order.** Their lines never decrease along the report, and each
of them is a line of the filter: no finding is put in front of the first line or behind the last. -/
theorem check_inOrder_and_onLines (filter : Text) :
    (check filter).diagnostics.Pairwise (·.line ≤ ·.line) ∧
      ∀ d ∈ (check filter).diagnostics, 1 ≤ d.line ∧ d.line ≤ (Text.lines filter).length := by
  rw [check_eq]
  constructor
  · rw [List.pairwise_append]
    refine ⟨Check.pairwise_line_findingsFrom _ _ _, ?_, ?_⟩
    · apply List.pairwise_of_forall_mem_list
      intro d hd d' hd'
      rw [(line_of_mem_atEnd hd).1, (line_of_mem_atEnd hd').1]
    · intro d hd d' hd'
      have hline := (Check.line_of_mem_findingsFrom hd).2
      have hline' := (line_of_mem_atEnd hd').1
      omega
  · intro d hd
    rcases List.mem_append.1 hd with hd | hd
    · have hpos := (Check.Place.isPlausible_outside 0).line_pos_of_mem_findingsFrom hd
      have hline := (Check.line_of_mem_findingsFrom hd).2
      omega
    · obtain ⟨hline, hpos⟩ := line_of_mem_atEnd hd
      omega

end Filter

end LootFilter
