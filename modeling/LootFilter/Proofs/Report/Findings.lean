import LootFilter.Proofs.Report.LineProblems
import LootFilter.Proofs.Report.Pass

/-!
# Findings of a check

The check goes over a filter once, and whether the current block has a condition is a flag that is
set, read and reset at different lines. What it finds can be said without a pass. Apart from their
order, the findings are of three kinds: those on lines in front of the first header, those on blocks
without a condition line, and those on single lines for what they say.

The finding on a block stands at the end of the block. While the pass is still in the block, the
finding is pending: it depends on the lines up to the next header, and on whether there is one.

## Main definitions

* `Line.beginsCondition` — whether the first word of a line names a property
* `Filter.outsideFindings`, `Filter.emptyBlockFindings`, `Filter.lineFindings` — the three kinds

## Main results

* `Check.diagnosticsFrom_perm` — what the pass over some lines finds, from any place
* `Filter.check_perm` — a check finds what is of the three kinds, and nothing twice
* `Filter.check_perm_and_messages` — the same with the wording of the findings on blocks
-/

namespace LootFilter

/-- Whether the first word of a line, its comment aside, is the keyword of a property. -/
def Line.beginsCondition (raw : Text) : Bool :=
  (Text.words (Text.withoutComment raw)).head?.any fun word => (Property.ofKeyword? word).isSome

namespace Filter

/-- The findings on lines in front of the first header: one on each line that is not blank. -/
def outsideFindings (filter : Text) : List Diagnostic :=
  (((preamble filter).zipIdx 1).filter fun p => Text.withoutComment p.1 ≠ []).map
    (⟨·.2, .outsideBlock⟩)

/-- Whether no line of a block begins like a condition. -/
def lacksCondition (filter : Text) (b : Block) : Bool :=
  (body filter b).all (!Line.beginsCondition ·)

/-- The finding on a block without a condition: it stands on the line in front of the next header,
or else on the last line of the filter. -/
def emptyBlockFinding (filter : Text) (b : Block) : Diagnostic :=
  match (blocks filter).find? (b.line < ·.line) with
  | some next => ⟨next.line - 1, .previousBlockEmpty⟩
  | none => ⟨(Text.lines filter).length, .finalBlockEmpty⟩

/-- The findings on blocks: one on each block without a condition. -/
def emptyBlockFindings (filter : Text) : List Diagnostic :=
  ((blocks filter).filter (lacksCondition filter)).map (emptyBlockFinding filter)

/-- The findings on single lines, blank lines and headers aside. -/
def lineFindings (filter : Text) : List Diagnostic :=
  ((Text.numberedLines filter).filter fun p =>
      Text.withoutComment p.1 ≠ [] ∧ Line.isHeader p.1 = false).flatMap
    fun p => (Check.lineProblems (Text.withoutComment p.1)).map (⟨p.2, ·⟩)

end Filter

/-! ### The pass over a filter -/

namespace Check

theorem namesProperty_withoutComment (raw : Text) :
    namesProperty (Text.withoutComment raw) = Line.beginsCondition raw := by
  unfold namesProperty Line.beginsCondition
  cases h : Text.firstWord? (Text.withoutComment raw) with
  | none => simp [Text.firstWord?_eq_none_iff.1 h]
  | some p => simp [Text.words_of_firstWord? h]

/-- The place behind some lines that are no headers. -/
def Place.afterAll (p : Place) (ls : List Text) : Place :=
  ls.foldl (fun p raw => p.after (Text.withoutComment raw)) p

theorem Place.afterAll_outside (ls : List Text) : Place.outside.afterAll ls = .outside := by
  induction ls with
  | nil => rfl
  | cons raw rest ih => exact ih

/-- In a block, a condition is missing until a line begins like one. -/
theorem Place.afterAll_inside (hasCondition : Bool) (ls : List Text) :
    (Place.inside hasCondition).afterAll ls =
      .inside (hasCondition || ls.any Line.beginsCondition) := by
  induction ls generalizing hasCondition with
  | nil => simp [afterAll]
  | cons raw rest ih =>
    have h := ih (hasCondition || Line.beginsCondition raw)
    rw [Bool.or_assoc] at h
    rw [List.any_cons, ← h]
    simp [afterAll, after, namesProperty_withoutComment]

/-- The finding on a block without a condition, given the sections behind it. -/
def closing (lastLine : Nat) (later : List Section) : Diagnostic :=
  match later.head? with
  | some next => ⟨next.line - 1, .previousBlockEmpty⟩
  | none => ⟨lastLine, .finalBlockEmpty⟩

/-- The findings on the blocks of some sections. -/
def closings (lastLine : Nat) : List Section → List Diagnostic
  | [] => []
  | s :: later =>
    (if s.body.all (!Line.beginsCondition ·) then [closing lastLine later] else []) ++
      closings lastLine later

/-- The finding on the block in which the pass stands, once all its lines have been read. -/
def pending (place : Place) (n : Nat) (ls : List Text) : List Diagnostic :=
  if (place.afterAll (ls.takeWhile (!Line.isHeader ·))).lacksCondition then
    [closing (n + ls.length) (Filter.sectionsFrom (n + 1) ls)]
  else []

/-- The findings for standing in front of the first header. -/
def outsideFrom (place : Place) (n : Nat) (ls : List Text) : List Diagnostic :=
  if place = .outside then
    (((ls.takeWhile (!Line.isHeader ·)).zipIdx (n + 1)).filter
      fun p => Text.withoutComment p.1 ≠ []).map (⟨·.2, .outsideBlock⟩)
  else []

/-- The findings on single lines. -/
def linesFrom (n : Nat) (ls : List Text) : List Diagnostic :=
  ((ls.zipIdx (n + 1)).filter fun p =>
      Text.withoutComment p.1 ≠ [] ∧ Line.isHeader p.1 = false).flatMap
    fun p => (lineProblems (Text.withoutComment p.1)).map (⟨p.2, ·⟩)

/-- What is declared about the lines behind line `n`, read from a place. -/
def declaredFrom (place : Place) (n : Nat) (ls : List Text) : List Diagnostic :=
  outsideFrom place n ls ++ pending place n ls ++
    closings (n + ls.length) (Filter.sectionsFrom (n + 1) ls) ++ linesFrom n ls

variable {place : Place} {raw : Text}

/-- A line that is no header does not end the block. -/
theorem pending_cons_of_not_isHeader (h : Line.isHeader raw = false) (n : Nat) (rest : List Text) :
    pending place n (raw :: rest) =
      pending (place.after (Text.withoutComment raw)) (n + 1) rest := by
  unfold pending
  rw [length_step, Filter.sectionsFrom_cons_of_not_isHeader h,
    List.takeWhile_cons_of_pos (by simpa using h)]
  rfl

/-- A blank line adds nothing. -/
theorem declaredFrom_cons_blank (h : Text.withoutComment raw = []) (n : Nat) (rest : List Text) :
    declaredFrom place n (raw :: rest) = declaredFrom place (n + 1) rest := by
  have hheader := Line.isHeader_of_blank h
  have hafter : place.after (Text.withoutComment raw) = place := by
    rw [h, Place.after_nil]
  have houtside : outsideFrom place n (raw :: rest) = outsideFrom place (n + 1) rest := by
    simp [outsideFrom, h, hheader]
  have hlines : linesFrom n (raw :: rest) = linesFrom (n + 1) rest := by
    simp [linesFrom, h]
  rw [declaredFrom, declaredFrom, houtside, pending_cons_of_not_isHeader hheader, hafter, hlines,
    length_step, Filter.sectionsFrom_cons_of_not_isHeader hheader]

/-- A header settles the finding on the block in front of it and begins a block without a
condition. -/
theorem declaredFrom_cons_header {v : Visibility} (h : Visibility.ofLine? raw = some v) (n : Nat)
    (rest : List Text) :
    (declaredFrom place n (raw :: rest)).Perm
      (place.atHeader (n + 1) ++ declaredFrom (.inside false) (n + 1) rest) := by
  have hheader : Line.isHeader raw = true := by simp [Line.isHeader, h]
  have hpending : pending place n (raw :: rest) = place.atHeader (n + 1) := by
    simp [pending, Place.atHeader, Place.afterAll, closing, hheader,
      Filter.sectionsFrom_cons_header h]
  -- the finding pending at the header is the one on the block that begins there
  have hnew : pending (.inside false) (n + 1) rest =
      if (rest.takeWhile (!Line.isHeader ·)).all (!Line.beginsCondition ·) then
        [closing (n + 1 + rest.length) (Filter.sectionsFrom (n + 1 + 1) rest)]
      else [] := by
    rw [pending, Place.afterAll_inside]
    simp only [Place.lacksCondition, Bool.false_or, List.all_eq_not_any_not, Bool.not_not]
    cases (rest.takeWhile (!Line.isHeader ·)).any Line.beginsCondition <;> rfl
  rw [declaredFrom, declaredFrom, hpending, hnew, length_step, Filter.sectionsFrom_cons_header h,
    closings]
  simp [outsideFrom, linesFrom, hheader]

/-- Any other line is reported for where it stands and for what it says. -/
theorem declaredFrom_cons_line (hblank : Text.withoutComment raw ≠ [])
    (hheader : Line.isHeader raw = false) (n : Nat) (rest : List Text) :
    (declaredFrom place n (raw :: rest)).Perm
      (place.atLine (n + 1) ++ (lineProblems (Text.withoutComment raw)).map (⟨n + 1, ·⟩) ++
        declaredFrom (place.after (Text.withoutComment raw)) (n + 1) rest) := by
  have houtside : outsideFrom place n (raw :: rest) = place.atLine (n + 1) ++
      outsideFrom (place.after (Text.withoutComment raw)) (n + 1) rest := by
    cases place <;> simp [outsideFrom, Place.atLine, Place.after, hblank, hheader]
  have hlines : linesFrom n (raw :: rest) =
      (lineProblems (Text.withoutComment raw)).map (⟨n + 1, ·⟩) ++ linesFrom (n + 1) rest := by
    simp [linesFrom, hblank, hheader]
  -- both sides have the same pieces in a different order, so it is enough to count
  rw [List.perm_iff_count]
  intro d
  rw [declaredFrom, declaredFrom, houtside, pending_cons_of_not_isHeader hheader, hlines,
    length_step, Filter.sectionsFrom_cons_of_not_isHeader hheader]
  simp only [List.count_append]
  omega

/-- What the pass over some lines finds, from any place: apart from its order, it is what is
declared about the lines. -/
theorem diagnosticsFrom_perm (place : Place) (n : Nat) (ls : List Text) :
    (diagnosticsFrom place n (ls.zipIdx (n + 1))).Perm (declaredFrom place n ls) := by
  -- the place has to be arbitrary, as each line may change it
  induction ls generalizing place n with
  | nil =>
    cases place with
    | outside => exact .refl _
    | inside hasCondition => cases hasCondition <;> exact .refl _
  | cons raw rest ih =>
    rw [List.zipIdx_cons, diagnosticsFrom]
    by_cases hblank : Text.withoutComment raw = []
    · simp only [hblank, if_true]
      rw [declaredFrom_cons_blank hblank]
      exact ih place (n + 1)
    · simp only [if_neg hblank]
      cases h : Visibility.ofLine? raw with
      | some v =>
        simp only [Option.isSome_some, if_true]
        exact ((ih _ _).append_left _).trans (declaredFrom_cons_header h n rest).symm
      | none =>
        have hheader : Line.isHeader raw = false := by simp [Line.isHeader, h]
        simp only [Option.isSome_none, Bool.false_eq_true, if_false]
        exact ((ih _ _).append_left _).trans (declaredFrom_cons_line hblank hheader n rest).symm

end Check

/-! ### The report -/

namespace Filter

/-- The first block below a block is the next one. -/
theorem find?_below {xs ys : List Block} {b : Block}
    (h : (xs ++ b :: ys).Pairwise fun b b' => b.line < b'.line) :
    (xs ++ b :: ys).find? (b.line < ·.line) = ys.head? := by
  rw [List.pairwise_append, List.pairwise_cons] at h
  obtain ⟨-, ⟨hys, -⟩, hxs⟩ := h
  have hnone : xs.find? (b.line < ·.line) = none := by
    rw [List.find?_eq_none]
    intro b' hb'
    have := hxs b' hb' b (by simp)
    simp only [decide_eq_true_eq]
    omega
  rw [List.find?_append, hnone, Option.none_or, List.find?_cons_of_neg (by simp)]
  cases ys with
  | nil => rfl
  | cons next ys => simp [hys next (by simp)]

/-- The findings on the blocks of the last sections are those on the last blocks. -/
theorem closings_eq_of_append {filter : Text} (earlier later : List Section)
    (h : sections filter = earlier ++ later) :
    Check.closings (Text.lines filter).length later =
      ((later.map Section.block).filter (lacksCondition filter)).map
        (emptyBlockFinding filter) := by
  -- sections move from the later ones to the earlier ones, and all of them stay those of the filter
  induction later generalizing earlier with
  | nil => rfl
  | cons s later ih =>
    have hlacks : lacksCondition filter s.block = s.body.all (!Line.beginsCondition ·) := by
      rw [lacksCondition, body_block (by simp [h])]
    have hblocks : blocks filter =
        earlier.map Section.block ++ s.block :: later.map Section.block := by
      simp [blocks_eq, h]
    have hnext : (blocks filter).find? (s.block.line < ·.line) =
        (later.map Section.block).head? := by
      have := pairwise_blocks filter
      rw [hblocks] at this ⊢
      exact find?_below this
    have hfinding : emptyBlockFinding filter s.block =
        Check.closing (Text.lines filter).length later := by
      rw [emptyBlockFinding, hnext, Check.closing]
      cases later <;> rfl
    rw [Check.closings, ih (earlier ++ [s]) (by simp [h]), List.map_cons,
      List.filter_cons, hlacks]
    split <;> simp [hfinding]

/-- A check finds what is declared about lines in front of the first header, about blocks and about
single lines, and nothing twice. -/
theorem check_perm (filter : Text) :
    (check filter).diagnostics.Perm
      (outsideFindings filter ++ emptyBlockFindings filter ++ lineFindings filter) := by
  have h := Check.diagnosticsFrom_perm .outside 0 (Text.lines filter)
  -- in front of the first header there is no block to report
  have hpending : Check.pending .outside 0 (Text.lines filter) = [] := by
    rw [Check.pending, Check.Place.afterAll_outside]
    rfl
  have hclosings : Check.closings (0 + (Text.lines filter).length)
      (sectionsFrom (0 + 1) (Text.lines filter)) = emptyBlockFindings filter := by
    rw [Nat.zero_add, emptyBlockFindings, blocks_eq]
    exact closings_eq_of_append [] _ rfl
  rw [Check.declaredFrom, hpending, hclosings, List.append_nil] at h
  exact h

/-! ### Filters without errors -/

variable {filter : Text}

theorem isError_emptyBlockFinding (filter : Text) (b : Block) :
    (emptyBlockFinding filter b).isError = true := by
  unfold emptyBlockFinding
  split <;> rfl

theorem mem_check_iff {d : Diagnostic} :
    d ∈ (check filter).diagnostics ↔
      d ∈ outsideFindings filter ∨ d ∈ emptyBlockFindings filter ∨ d ∈ lineFindings filter := by
  rw [(check_perm filter).mem_iff, List.mem_append, List.mem_append, or_assoc]

theorem not_isError_of_isValid (h : (check filter).isValid = true) {d : Diagnostic}
    (hd : d ∈ (check filter).diagnostics) : d.isError = false := by
  simp only [Report.isValid, Bool.not_eq_true', List.any_eq_false] at h
  simpa using h d hd

/-- In a filter without errors, no line that is no header has an error. -/
theorem noErrors_of_isValid (h : (check filter).isValid = true) {raw : Text}
    (hraw : raw ∈ Text.lines filter) (hheader : Line.isHeader raw = false) :
    Check.NoErrors (Check.lineProblems (Text.withoutComment raw)) := by
  intro q hq herror
  have hblank : Text.withoutComment raw ≠ [] := by
    intro e
    rw [e] at hq
    exact absurd hq List.not_mem_nil
  obtain ⟨k, hk⟩ : ∃ k, (raw, k) ∈ Text.numberedLines filter := by
    obtain ⟨i, hi, rfl⟩ := List.mem_iff_getElem.1 hraw
    exact ⟨1 + i, List.mk_mem_zipIdx_iff_le_and_getElem?_sub.2 (by simp [hi])⟩
  have hmem : (⟨k, q⟩ : Diagnostic) ∈ lineFindings filter := by
    refine List.mem_flatMap.2 ⟨(raw, k), List.mem_filter.2 ⟨hk, by simp [hblank, hheader]⟩, ?_⟩
    exact List.mem_map.2 ⟨q, hq, rfl⟩
  have := not_isError_of_isValid h (mem_check_iff.2 (Or.inr (Or.inr hmem)))
  simp [Diagnostic.isError, herror] at this

/-- In a filter without errors, each block has a line that begins like a condition. -/
theorem exists_beginsCondition_of_isValid (h : (check filter).isValid = true) {b : Block}
    (hb : b ∈ blocks filter) : ∃ raw ∈ body filter b, Line.beginsCondition raw = true := by
  by_contra hnone
  have hlacks : lacksCondition filter b = true := by
    refine List.all_eq_true.2 fun raw hraw => ?_
    by_contra hbegins
    exact hnone ⟨raw, hraw, by simpa using hbegins⟩
  have hmem : emptyBlockFinding filter b ∈ emptyBlockFindings filter :=
    List.mem_map.2 ⟨b, List.mem_filter.2 ⟨hb, hlacks⟩, rfl⟩
  have := not_isError_of_isValid h (mem_check_iff.2 (Or.inr (Or.inl hmem)))
  simp [isError_emptyBlockFinding] at this

/-- **What a check finds.** Apart from their order, the findings of a check are one on each line in
front of the first header that is not blank, one on each block none of whose lines begins like a
condition, and the findings on each other line alone. -/
theorem check_perm_and_messages (filter : Text) :
    (check filter).diagnostics.Perm
        (outsideFindings filter ++ emptyBlockFindings filter ++ lineFindings filter) ∧
      (∀ d ∈ outsideFindings filter,
        d.isError = true ∧ d.problem.message = "Line must be inside Show/Hide block") ∧
      ∀ b, (emptyBlockFinding filter b).isError = true ∧
        (emptyBlockFinding filter b).problem.message =
          match (blocks filter).find? (b.line < ·.line) with
          | some _ => "Previous block has no conditions"
          | none => "Final block has no conditions" := by
  refine ⟨check_perm filter, ?_, ?_⟩
  · intro d hd
    obtain ⟨p, -, rfl⟩ := List.mem_map.1 hd
    exact ⟨rfl, rfl⟩
  · intro b
    refine ⟨isError_emptyBlockFinding filter b, ?_⟩
    unfold emptyBlockFinding
    cases (blocks filter).find? (b.line < ·.line) <;> rfl

end Filter

end LootFilter
