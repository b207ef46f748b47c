import LootFilter.Proofs.Filter.Formatting
import LootFilter.Proofs.Report.Concatenation

/-!
# Formatting and checks

A check looks at a line in the same two views as the evaluation, though in a different order, so
what leaves the views alone leaves the report alone: blanks around lines, comments behind them, the
kind of line ends. Lines that say nothing are passed over without a finding and without a change of
place. They only count as lines, so more of them change the numbers of findings and nothing else.

## Main results

* `Filter.check_congr` — the report depends on the views of the lines alone
* `Check.map_problem_findingsFrom_of_padded` — lines that say nothing have no findings
* `Filter.blocks_and_check_reformatted_and_padded` — formatting changes neither the blocks nor the
  report
-/

namespace LootFilter

namespace Check

variable {ls ms : List Text} {raw raw' : Text} {place : Place}

/-! ### Lines that are the same in both views -/

theorem isHeader_congr (h : Line.SameReading raw raw') : Line.isHeader raw = Line.isHeader raw' :=
  congrArg Option.isSome h.header

theorem Place.findings_congr (h : Line.SameReading raw raw') (place : Place) (n : Nat) :
    place.findings n raw = place.findings n raw' := by
  rw [findings, findings, h.content, isHeader_congr h]

theorem Place.next_congr (h : Line.SameReading raw raw') (place : Place) :
    place.next raw = place.next raw' := by
  rw [next, next, h.content, isHeader_congr h]

theorem findingsFrom_congr (h : List.Forall₂ Line.SameReading ls ms) (place : Place) (n : Nat) :
    findingsFrom place n ls = findingsFrom place n ms := by
  induction h generalizing place n with
  | nil => rfl
  | cons hraw _ ih =>
    rw [findingsFrom, findingsFrom, Place.findings_congr hraw, Place.next_congr hraw, ih]

theorem Place.behind_congr (h : List.Forall₂ Line.SameReading ls ms) (place : Place) :
    place.behind ls = place.behind ms := by
  induction h generalizing place with
  | nil => rfl
  | cons hraw _ ih =>
    rw [behind, List.foldl_cons, next_congr hraw]
    exact ih _

/-! ### Lines that say nothing -/

theorem map_problem_shifted (k : Nat) (ds : List Diagnostic) :
    (ds.map (·.shifted k)).map Diagnostic.problem = ds.map Diagnostic.problem := by
  rw [List.map_map]
  rfl

/-- What is found along some lines does not depend on their numbers. -/
theorem map_problem_findingsFrom (place : Place) (n : Nat) (ls : List Text) :
    (findingsFrom place n ls).map Diagnostic.problem =
      (findingsFrom place 0 ls).map Diagnostic.problem := by
  have h := findingsFrom_add place 0 n ls
  rw [Nat.zero_add] at h
  rw [h, map_problem_shifted]

theorem map_problem_atEnd (place : Place) (n : Nat) :
    (place.atEnd n).map Diagnostic.problem = (place.atEnd 0).map Diagnostic.problem := by
  have h := Place.atEnd_add place 0 n
  rw [Nat.zero_add] at h
  rw [h, map_problem_shifted]

theorem Place.behind_of_padded (h : Filter.Padded ls ms) (place : Place) :
    place.behind ms = place.behind ls := by
  induction h generalizing place with
  | nil => rfl
  | keep raw _ ih => exact ih (place.next raw)
  | insert hraw _ ih =>
    -- the inserted line leaves the place as it is
    rw [behind, List.foldl_cons, next_of_blank (Line.saysNothing_iff.1 hraw)]
    exact ih place

/-- Lines that say nothing have no findings. -/
theorem map_problem_findingsFrom_of_padded (h : Filter.Padded ls ms) (place : Place) :
    (findingsFrom place 0 ms).map Diagnostic.problem =
      (findingsFrom place 0 ls).map Diagnostic.problem := by
  induction h generalizing place with
  | nil => rfl
  | keep raw _ ih =>
    -- the numbers of the lines behind are forgotten, so that the hypothesis applies
    rw [findingsFrom, findingsFrom, List.map_append, List.map_append, map_problem_findingsFrom, ih,
      ← map_problem_findingsFrom _ (0 + 1)]
  | insert hraw _ ih =>
    have hblank := Line.saysNothing_iff.1 hraw
    rw [findingsFrom, Place.findings_of_blank hblank, Place.next_of_blank hblank, List.nil_append,
      map_problem_findingsFrom, ih]

end Check

namespace Filter

variable {filter filter' : Text} {ls ms : List Text}

/-- The report depends on the views of the lines alone. -/
theorem check_congr (h : List.Forall₂ Line.SameReading (Text.lines filter) (Text.lines filter')) :
    check filter = check filter' := by
  have hdiagnostics : (check filter).diagnostics = (check filter').diagnostics := by
    rw [check_eq, check_eq, Check.findingsFrom_congr h, Check.Place.behind_congr h, h.length_eq]
  exact congrArg Report.mk hdiagnostics

theorem map_problem_check_of_padded (h : Padded (Text.lines filter) (Text.lines filter')) :
    (check filter').diagnostics.map Diagnostic.problem =
      (check filter).diagnostics.map Diagnostic.problem := by
  rw [check_eq, check_eq, List.map_append, List.map_append,
    Check.map_problem_findingsFrom_of_padded h, Check.Place.behind_of_padded h,
    Check.map_problem_atEnd, Check.map_problem_atEnd _ (Text.lines filter).length]

/-- **Formatting does not change the meaning.** Let a filter be given as lines that each end with a
line feed. Blanks around lines, comments behind lines that are no headers, and a carriage return in
front of every line feed, in any combination, leave the blocks and the report as they are. Lines in
between that say nothing leave the blocks as they are but for where they stand, the verdicts but for
their lines, and the findings but for their numbers. -/
theorem blocks_and_check_reformatted_and_padded (hls : ∀ l ∈ ls, '\n' ∉ l) :
    (∀ ms, List.Forall₂ Line.Reformatted ls ms → ∀ ending ∈ [("\n" : Text), ("\r\n" : Text)],
      blocks (ms.flatMap (· ++ ending)) = blocks (Text.unlines ls) ∧
        check (ms.flatMap (· ++ ending)) = check (Text.unlines ls)) ∧
    ∀ ms, Padded ls ms → (∀ m ∈ ms, '\n' ∉ m) →
      (blocks (Text.unlines ms)).map Block.unnumbered =
          (blocks (Text.unlines ls)).map Block.unnumbered ∧
        (∀ i, (verdict (Text.unlines ms) i).isHidden = (verdict (Text.unlines ls) i).isHidden ∧
          (verdict (Text.unlines ms) i).style = (verdict (Text.unlines ls) i).style) ∧
        (check (Text.unlines ms)).diagnostics.map
            (fun d => (d.problem.severity, d.problem.message)) =
          (check (Text.unlines ls)).diagnostics.map
            (fun d => (d.problem.severity, d.problem.message)) := by
  constructor
  · intro ms h ending hending
    -- the carriage returns of the line ends are blanks behind the lines
    obtain ⟨ms', hms', htext⟩ : ∃ ms', List.Forall₂ Line.Reformatted ls ms' ∧
        ms.flatMap (· ++ ending) = Text.unlines ms' := by
      rcases List.mem_cons.1 hending with rfl | hending
      · exact ⟨ms, h, rfl⟩
      · obtain rfl := List.mem_singleton.1 hending
        refine ⟨ms.map (· ++ ['\r']), ?_, Text.flatMap_returnNewline ms⟩
        rw [List.forall₂_map_right_iff]
        have hreturn : ∀ c ∈ ['\r'], isBlank c = true ∧ c ≠ '\n' :=
          List.forall_mem_singleton.2 ⟨isBlank_return, by decide⟩
        exact h.imp fun raw edited hedited => hedited.blanksBehind hreturn
    have hsame := sameReading_lines_of_reformatted hls hms'
    rw [htext]
    exact ⟨blocks_congr hsame, check_congr hsame⟩
  · intro ms h hms
    have hpadded := padded_lines_of_padded hms h
    refine ⟨map_unnumbered_blocks_of_padded hpadded,
      isHidden_and_style_verdict_of_padded hpadded, ?_⟩
    -- severity and wording are those of the problem, and no line number is part of them
    have hproblems := map_problem_check_of_padded hpadded
    have hwording := congrArg (List.map fun q => (Problem.severity q, Problem.message q)) hproblems
    rwa [List.map_map, List.map_map] at hwording

/-- A filter in two notations: with other blanks, line ends and comments, and with more lines. -/
theorem blocks_and_check_reformatted_and_padded_rares :
    (∀ l ∈ [("Show" : Text), ("Rarity Rare" : Text)], '\n' ∉ l) ∧
      blocks ([("\u2003Show\r" : Text), ("Rarity Rare# \"no\" # uniques" : Text)].flatMap
          (· ++ ("\r\n" : Text))) = blocks (Text.unlines ["Show", "Rarity Rare"]) ∧
      check ([("\u2003Show\r" : Text), ("Rarity Rare# \"no\" # uniques" : Text)].flatMap
          (· ++ ("\r\n" : Text))) = check (Text.unlines ["Show", "Rarity Rare"]) ∧
      (blocks (Text.unlines ["Show", "", "\t# no uniques", "Rarity Rare"])).map Block.unnumbered =
        (blocks (Text.unlines ["Show", "Rarity Rare"])).map Block.unnumbered := by
  have hls : ∀ l ∈ [("Show" : Text), ("Rarity Rare" : Text)], '\n' ∉ l := by decide
  obtain ⟨hreformatted, hpadded⟩ := blocks_and_check_reformatted_and_padded hls
  have hspace : ∀ c ∈ ['\u2003'], isBlank c = true ∧ c ≠ '\n' :=
    List.forall_mem_singleton.2 (by decide)
  have hreturn : ∀ c ∈ ['\r'], isBlank c = true ∧ c ≠ '\n' :=
    List.forall_mem_singleton.2 (by decide)
  have hheader : Line.Reformatted "Show" "\u2003Show\r" :=
    (Line.Reformatted.refl.blanksBehind hreturn).blanksInFront hspace
  have hnote : '\n' ∉ (" \"no\" # uniques" : Text) := by decide
  have hcondition : Line.Reformatted "Rarity Rare" "Rarity Rare# \"no\" # uniques" :=
    Line.Reformatted.refl.comment (by decide) hnote
  have hsame := hreformatted _ (.cons hheader (.cons hcondition .nil)) "\r\n" (by decide)
  have hmore : Padded ["Show", "Rarity Rare"] ["Show", "", "\t# no uniques", "Rarity Rare"] :=
    .keep _ (.insert (by decide) (.insert (by decide) (.keep _ .nil)))
  exact ⟨hls, hsame.1, hsame.2, (hpadded _ hmore (by decide)).1⟩

end Filter

end LootFilter
