import LootFilter.Proofs.Filter.Concatenation
import LootFilter.Proofs.Report.Pass

/-!
# Checking filters one after the other

Where a filter is continued by a piece that begins with a header, the check of the whole finds what
it finds in the two pieces, in this order. The pieces meet at the header: there the pass leaves the
last block of the first piece, and a block without a condition that was the final one of the first
piece is now the one in front of the header. Both findings stand on the same line, the last of the
first piece.

## Main definitions

* `Diagnostic.shifted` — a finding, some lines further down
* `Diagnostic.continued` — a finding in a filter that goes on with another block

## Main results

* `Check.findingsFrom_add` — lines further down have the same findings further down
* `Check.findingsFrom_cons_header` — a header only looks back at the block that it ends
* `Filter.check_append` — the findings in two pieces
-/

namespace LootFilter

/-- A finding that stands `n` lines further down. -/
def Diagnostic.shifted (n : Nat) (d : Diagnostic) : Diagnostic := { d with line := d.line + n }

/-- A finding, once another block follows the last one: that the final block has no conditions is
then told of the previous block, on the same line. -/
def Diagnostic.continued (d : Diagnostic) : Diagnostic :=
  if d.problem = .finalBlockEmpty then { d with problem := .previousBlockEmpty } else d

namespace Check

variable {place : Place} {raw : Text}

/-! ### The second piece -/

theorem Place.findings_add (place : Place) (n k : Nat) (raw : Text) :
    place.findings (n + 1 + k) raw = (place.findings (n + 1) raw).map (·.shifted k) := by
  -- behind the first line the number in front of a header is a true difference
  have hprevious : n + 1 + k - 1 = n + 1 - 1 + k := by omega
  unfold findings atHeader atLine
  split_ifs <;> simp [Diagnostic.shifted, hprevious]

theorem findingsFrom_add (place : Place) (n k : Nat) (ls : List Text) :
    findingsFrom place (n + k) ls = (findingsFrom place n ls).map (·.shifted k) := by
  induction ls generalizing place n with
  | nil => rfl
  | cons raw rest ih =>
    rw [findingsFrom, findingsFrom, List.map_append, Nat.add_right_comm n k 1, ih,
      Place.findings_add]

theorem Place.atEnd_add (place : Place) (n k : Nat) :
    place.atEnd (n + k) = (place.atEnd n).map (·.shifted k) := by
  unfold atEnd
  split_ifs <;> rfl

/-- A header only looks back at the block that it ends. -/
theorem findingsFrom_cons_header (h : Line.isHeader raw = true) (n : Nat) (rest : List Text) :
    findingsFrom place n (raw :: rest) =
      place.atHeader (n + 1) ++ findingsFrom .outside n (raw :: rest) := by
  rw [findingsFrom, findingsFrom, Place.findings_of_isHeader h, Place.findings_of_isHeader h,
    Place.next_of_isHeader h, Place.next_of_isHeader h]
  rfl

theorem Place.behind_cons_header (h : Line.isHeader raw = true) (rest : List Text) :
    place.behind (raw :: rest) = Place.outside.behind (raw :: rest) := by
  rw [behind, behind, List.foldl_cons, List.foldl_cons, next_of_isHeader h, next_of_isHeader h]

/-! ### The first piece -/

theorem map_continued_findingsFrom (place : Place) (n : Nat) (ls : List Text) :
    (findingsFrom place n ls).map Diagnostic.continued = findingsFrom place n ls := by
  refine (List.map_congr_left fun d hd => ?_).trans (List.map_id _)
  exact if_neg (ne_finalBlockEmpty_of_mem_findingsFrom hd)

/-- What is told at the end is told at the next header instead. -/
theorem Place.map_continued_atEnd (place : Place) (n : Nat) :
    (place.atEnd n).map Diagnostic.continued = place.atHeader (n + 1) := by
  unfold atEnd atHeader
  split_ifs <;> rfl

end Check

namespace Filter

variable {t u : Text}

/-- The findings of a check with a closing one at most: that the final block has no conditions, on
the last line. -/
theorem exists_check_eq (filter : Text) :
    ∃ earlier, (∀ d ∈ earlier, d.problem ≠ .finalBlockEmpty) ∧
      ((check filter).diagnostics = earlier ∨
        (check filter).diagnostics =
          earlier ++ [⟨(Text.lines filter).length, .finalBlockEmpty⟩]) := by
  refine ⟨Check.findingsFrom .outside 0 (Text.lines filter),
    fun d hd => Check.ne_finalBlockEmpty_of_mem_findingsFrom hd, ?_⟩
  rw [check_eq, Check.Place.atEnd]
  split_ifs
  · exact Or.inr rfl
  · exact Or.inl (List.append_nil _)

/-- **Checking filters in pieces.** If a piece ends with a line feed or is empty, and the next one
begins with a header, then the findings on the whole are those on the first piece, followed by those
on the second one, further down by the lines of the first. Only the closing finding on the first
piece is worded differently: its last block is no longer the final one. -/
theorem check_append (ht : Text.EndsLine t)
    (hu : (Text.lines u).head?.any Line.isHeader = true) :
    (check (t ++ u)).diagnostics =
        (check t).diagnostics.map Diagnostic.continued ++
          (check u).diagnostics.map (·.shifted (Text.lines t).length) ∧
      ∃ earlier, (∀ d ∈ earlier, d.problem ≠ .finalBlockEmpty) ∧
        ((check t).diagnostics = earlier ∨
          (check t).diagnostics = earlier ++ [⟨(Text.lines t).length, .finalBlockEmpty⟩]) := by
  refine ⟨?_, exists_check_eq t⟩
  obtain ⟨raw, rest, hlines, hheader⟩ := exists_lines_eq_cons hu
  have halong := Check.findingsFrom_add .outside 0 (Text.lines t).length (raw :: rest)
  -- at the end of the whole the pass stands where it stands at the end of the second piece
  have hend : ((Check.Place.outside.behind (Text.lines t)).behind (raw :: rest)).atEnd
      (Text.lines t ++ raw :: rest).length =
        ((Check.Place.outside.behind (raw :: rest)).atEnd (raw :: rest).length).map
          (·.shifted (Text.lines t).length) := by
    rw [Check.Place.behind_cons_header hheader, ← Check.Place.atEnd_add, List.length_append,
      Nat.add_comm]
  -- the pass arrives at the header from the place where the first piece ends
  rw [check_eq, check_eq, check_eq, Text.lines_append ht, hlines, Check.findingsFrom_append,
    Check.Place.behind_append, hend, Check.findingsFrom_cons_header hheader, halong,
    List.map_append, List.map_append, Check.map_continued_findingsFrom,
    Check.Place.map_continued_atEnd, Nat.zero_add]
  simp only [List.append_assoc]

/-- A block without a condition and a comment behind it, continued by a block that has one. -/
theorem check_append_bare_block :
    Text.EndsLine "Show\n# all\n" ∧
      (Text.lines "Hide\n\tAreaLevel\n").head?.any Line.isHeader = true ∧
      (check (("Show\n# all\n" : Text) ++ ("Hide\n\tAreaLevel\n" : Text))).diagnostics =
        [⟨2, .previousBlockEmpty⟩, ⟨4, .incompleteCondition .areaLevel⟩] := by
  have hends : Text.EndsLine "Show\n# all\n" := Or.inr (by decide)
  have hheader : (Text.lines "Hide\n\tAreaLevel\n").head?.any Line.isHeader = true := by decide
  refine ⟨hends, hheader, ?_⟩
  rw [(check_append hends hheader).1]
  decide

end Filter

end LootFilter
