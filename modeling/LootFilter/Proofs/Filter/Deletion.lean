import LootFilter.Proofs.Filter.Rearrangement
import LootFilter.Proofs.Text.Lines

/-!
# Dead blocks

A block is dead if all conditions of a block above it are among its own: whatever it would match,
the block above matches first. Behind a block without conditions every block is dead.

The lines of a dead block, from its header up to the next header, can be deleted from the filter.
The lines above and below then meet at a header, or at the end of the filter, so no line comes to
another block: the blocks above stay, and the blocks below move up.

## Main definitions

* `Filter.IsDead` — a block that a block above covers
* `Filter.withoutBlock` — a filter from which the lines of a block have been deleted
* `Verdict.movedUp` — a verdict after lines have been deleted

## Main results

* `Filter.exists_blocks_split` — the blocks before and after a block has been deleted
* `Filter.IsDead.firstMatch?_ne` — a dead block is no match
* `Filter.verdict_withoutBlock_of_isDead` — dead blocks can be deleted
-/

namespace LootFilter

/-- A verdict after `count` lines have been deleted, the first of which was line `first`: a line
below them moves up. -/
def Verdict.movedUp (first count : Nat) (v : Verdict) : Verdict :=
  { v with line := v.line.map fun n => if first < n then n - count else n }

theorem Verdict.shifted_zero (v : Verdict) : v.shifted 0 = v := by
  cases v with
  | mk isHidden style line => cases line <;> rfl

/-- Lines above the deleted ones stay where they are. -/
theorem Verdict.movedUp_of_le {first : Nat} {v : Verdict} (h : ∀ n, v.line = some n → n ≤ first)
    (count : Nat) : v.movedUp first count = v := by
  obtain ⟨isHidden, style, line⟩ := v
  cases line with
  | none => rfl
  | some n =>
    have hle : n ≤ first := h n rfl
    simp [movedUp, Nat.not_lt.2 hle]

/-- Lines below the deleted ones come to where the deleted ones began, or further down. -/
theorem Verdict.movedUp_shifted {first count : Nat} {v : Verdict}
    (h : ∀ n, v.line = some n → first ≤ n) (hcount : 0 < count) :
    (v.shifted count).movedUp first count = v := by
  obtain ⟨isHidden, style, line⟩ := v
  cases line with
  | none => rfl
  | some n =>
    have hle : first ≤ n := h n rfl
    have hlt : first < n + count := by omega
    simp [movedUp, shifted, hlt]

namespace Filter

variable {filter : Text} {b d : Block} {i : Item}

/-- A block below another one whose conditions are all among its own. -/
structure IsDead (filter : Text) (d : Block) : Prop where
  mem : d ∈ blocks filter
  covered : ∃ b ∈ blocks filter, b.line < d.line ∧ ∀ c ∈ b.conditions, c ∈ d.conditions

/-- The number of lines of a block, its header among them. -/
def height (filter : Text) (b : Block) : Nat := (body filter b).length + 1

/-- A filter without the lines of a block: its header, and the lines up to the next header. -/
def withoutBlock (filter : Text) (b : Block) : Text :=
  Text.withoutLines (b.line - 1) (height filter b) filter

/-- Behind a block without conditions every block is dead. -/
theorem isDead_of_isCatchAll (hb : b ∈ blocks filter) (hall : b.isCatchAll = true)
    (hd : d ∈ blocks filter) (hlt : b.line < d.line) : IsDead filter d := by
  refine ⟨hd, b, hb, hlt, ?_⟩
  have hnil : b.conditions = [] := List.isEmpty_iff.1 hall
  simp [hnil]

/-! ### Blocks -/

/-- Lines that are followed by a header, or by nothing, have their sections to themselves. -/
theorem sectionsFrom_append (n : Nat) (xs : List Text) {ys : List Text}
    (hys : ys.head?.all Line.isHeader = true) :
    sectionsFrom n (xs ++ ys) = sectionsFrom n xs ++ sectionsFrom (n + xs.length) ys := by
  induction xs generalizing n with
  | nil => rfl
  | cons raw rest ih =>
    have hnumber : n + 1 + rest.length = n + (raw :: rest).length := by
      rw [List.length_cons]
      omega
    cases hv : Visibility.ofLine? raw with
    | none =>
      have hheader : Line.isHeader raw = false := by simp [Line.isHeader, hv]
      rw [List.cons_append, sectionsFrom_cons_of_not_isHeader hheader,
        sectionsFrom_cons_of_not_isHeader hheader, ih, hnumber]
    | some v =>
      -- the last section ends at the header that follows
      have hstop : ys.takeWhile (!Line.isHeader ·) = [] := by
        cases ys with
        | nil => rfl
        | cons header _ => exact List.takeWhile_cons_of_neg (by simpa using hys)
      have hbody : (rest ++ ys).takeWhile (!Line.isHeader ·) =
          rest.takeWhile (!Line.isHeader ·) := by
        rw [List.takeWhile_append, hstop, List.append_nil]
        split
        next hall => exact ((List.takeWhile_prefix _).eq_of_length hall).symm
        next => rfl
      rw [List.cons_append, sectionsFrom_cons_header hv, sectionsFrom_cons_header hv, ih, hnumber,
        hbody, List.cons_append]

/-- What stands behind the lines of a block is another header, if it is not the end. -/
theorem isHeader_head?_drop_body (filter : Text) (b : Block) :
    ((Text.lines filter).drop (b.line + (body filter b).length)).head?.all Line.isHeader =
      true := by
  have hrest : (Text.lines filter).drop (b.line + (body filter b).length) =
      ((Text.lines filter).drop b.line).dropWhile (!Line.isHeader ·) := by
    have hwhole : body filter b ++ (Text.lines filter).drop (b.line + (body filter b).length) =
        body filter b ++ ((Text.lines filter).drop b.line).dropWhile (!Line.isHeader ·) := by
      rw [← List.drop_drop, body, List.takeWhile_append_dropWhile]
      exact List.prefix_iff_eq_append.1 (List.takeWhile_prefix _)
    exact List.append_cancel_left hwhole
  have hstop := List.head?_dropWhile_not (!Line.isHeader ·) ((Text.lines filter).drop b.line)
  rw [hrest]
  cases h : (((Text.lines filter).drop b.line).dropWhile (!Line.isHeader ·)).head? with
  | none => rfl
  | some header => simpa [h] using hstop

/-- The lines of a filter around a block: its header and its lines, and then another header, or the
end. -/
theorem exists_lines_split (hd : d ∈ blocks filter) :
    ∃ above header below,
      Text.lines filter = above ++ (header :: body filter d ++ below) ∧
        d.line = above.length + 1 ∧ Visibility.ofLine? header = some d.visibility ∧
        below.head?.all Line.isHeader = true := by
  obtain ⟨header, hheader, hkeyword⟩ := exists_header hd
  rw [Text.numberedLines, List.mk_mem_zipIdx_iff_le_and_getElem?_sub] at hheader
  obtain ⟨hpos, hget⟩ := hheader
  obtain ⟨hlt, hget⟩ := List.getElem?_eq_some_iff.1 hget
  have hline : d.line - 1 + 1 = d.line := by omega
  have htake : (Text.lines filter).take d.line =
      (Text.lines filter).take (d.line - 1) ++ [header] := by
    rw [← hget, ← List.take_succ_eq_append_getElem hlt, hline]
  refine ⟨(Text.lines filter).take (d.line - 1), header, _, ?_, ?_,
    Visibility.ofLine?_eq_some_iff.2 hkeyword, isHeader_head?_drop_body filter d⟩
  · have hsplit := lines_eq_append_body filter d
    rw [htake] at hsplit
    simpa using hsplit
  · rw [List.length_take]
    omega

/-- The lines that remain when a block is deleted. -/
theorem lines_withoutBlock (hd : d ∈ blocks filter) :
    Text.lines (withoutBlock filter d) =
      (Text.lines filter).take (d.line - 1) ++
        (Text.lines filter).drop (d.line + (body filter d).length) := by
  obtain ⟨above, -, -, -, hline, -, -⟩ := exists_lines_split hd
  have hbehind : d.line - 1 + height filter d = d.line + (body filter d).length := by
    rw [height]
    omega
  rw [withoutBlock, Text.lines_withoutLines, hbehind]

/-- The blocks above and below a block do not change when its lines are deleted, but for the place
of those below. -/
theorem exists_blocks_split (hd : d ∈ blocks filter) :
    ∃ above below,
      blocks filter = above ++ d :: below.map (·.shifted (height filter d)) ∧
        blocks (withoutBlock filter d) = above ++ below ∧
        (∀ b ∈ above, b.line < d.line) ∧ ∀ b ∈ below, d.line ≤ b.line := by
  obtain ⟨above, header, below, hlines, hline, hheader, hbelow⟩ := exists_lines_split hd
  -- the cuts are in front of headers, so the sections on both sides are read apart
  have hself : (header :: body filter d ++ below).head?.all Line.isHeader = true := by
    simp [Line.isHeader, hheader]
  have hbody : ∀ raw ∈ body filter d, Line.isHeader raw = false := fun raw hraw =>
    (of_mem_body hraw).2
  have hnumber : 1 + above.length = d.line := by omega
  have hheight : (header :: body filter d).length = height filter d := List.length_cons
  -- the section at the header is the one that the block was read from
  have hown : sectionsFrom d.line (header :: body filter d) =
      [⟨d.line, d.visibility, body filter d⟩] := by
    rw [sectionsFrom_cons_header hheader, sectionsFrom_of_forall_not_isHeader hbody,
      List.takeWhile_eq_self_iff.2 (by simpa using hbody)]
  have hsections : sections filter =
      sectionsFrom 1 above ++ (⟨d.line, d.visibility, body filter d⟩ ::
        sectionsFrom (d.line + height filter d) below) := by
    rw [sections, hlines, sectionsFrom_append 1 above hself, hnumber,
      sectionsFrom_append d.line _ hbelow, hown, hheight]
    rfl
  have hremaining : Text.lines (withoutBlock filter d) = above ++ below := by
    have habove : d.line - 1 = above.length := by omega
    rw [withoutBlock, Text.lines_withoutLines, hlines, habove, List.take_left, ← List.drop_drop,
      List.drop_left, ← hheight, List.drop_left]
  have hblock : Section.block ⟨d.line, d.visibility, body filter d⟩ = d := by
    have hmem : Section.block ⟨d.line, d.visibility, body filter d⟩ ∈ blocks filter := by
      rw [blocks_eq, hsections]
      exact List.mem_map_of_mem (List.mem_append_right _ List.mem_cons_self)
    exact eq_of_line_eq hmem hd rfl
  refine ⟨(sectionsFrom 1 above).map Section.block, (sectionsFrom d.line below).map Section.block,
    ?_, ?_, ?_, ?_⟩
  · rw [blocks_eq, hsections, List.map_append, List.map_cons, hblock, sectionsFrom_add]
  · rw [blocks_eq, sections, hremaining, sectionsFrom_append 1 above hbelow, hnumber,
      List.map_append]
  · intro b hb
    obtain ⟨s, hs, rfl⟩ := List.mem_map.1 hb
    have hle : s.line ≤ 0 + above.length := (of_mem_sectionsFrom hs).2.1
    have hsame : s.block.line = s.line := rfl
    omega
  · intro b hb
    obtain ⟨s, hs, rfl⟩ := List.mem_map.1 hb
    rw [hline] at hs
    have hlt : above.length < s.line := (of_mem_sectionsFrom hs).1
    have hsame : s.block.line = s.line := rfl
    omega

/-! ### Matches -/

/-- A dead block is the match of no item: the block above it matches first. -/
theorem IsDead.firstMatch?_ne (h : IsDead filter d) (i : Item) :
    firstMatch? (blocks filter) i ≠ some d := by
  intro hfound
  have hmatch := firstMatch?_eq_some_iff.1 hfound
  obtain ⟨b, hb, hlt, hcovers⟩ := h.covered
  -- a condition of the block above fails, and it is one of the block's own
  obtain ⟨c, hc, hfails⟩ := hmatch.above b hb hlt
  rw [hmatch.holds c (hcovers c hc)] at hfails
  exact Bool.noConfusion hfails

/-- No verdict names the line of a dead block. -/
theorem IsDead.line_verdict_ne (h : IsDead filter d) (i : Item) :
    (verdict filter i).line ≠ some d.line := by
  intro hline
  by_cases hbase : i.hasBaseType = true
  · exact h.firstMatch?_ne i ((firstMatch?_eq_some_iff_line hbase).2 ⟨h.mem, hline⟩)
  · rw [verdict, if_neg hbase] at hline
    exact absurd hline (by simp)

/-- The first match is looked for among some blocks, then among the others. -/
theorem verdictOf_append (xs ys : List Block) (i : Item) :
    verdictOf (xs ++ ys) i =
      if (verdictOf xs i).line.isSome then verdictOf xs i else verdictOf ys i := by
  have hunmoved : ys.map (·.shifted 0) = ys := List.map_id ys
  have happend := verdictOf_append_shifted xs ys 0 i
  rwa [hunmoved, Verdict.shifted_zero] at happend

/-- A block that only matches what a block above it matches can be left out. -/
theorem verdictOf_append_cons {above below : List Block}
    (h : d.applies i = true → ∃ b ∈ above, b.applies i = true) :
    verdictOf (above ++ d :: below) i = verdictOf (above ++ below) i := by
  unfold verdictOf firstMatch?
  rw [List.find?_append, List.find?_append]
  cases hfound : above.find? (·.applies i) with
  | some b => rfl
  | none =>
    -- no block above matches, so the block itself does not match either
    have hfails : d.applies i ≠ true := by
      intro happlies
      obtain ⟨b, hb, hmatches⟩ := h happlies
      exact List.find?_eq_none.1 hfound b hb hmatches
    rw [List.find?_cons_of_neg (by simpa using hfails)]

/-- The line of a verdict is that of one of the blocks. -/
theorem exists_mem_of_line_verdictOf {bs : List Block} {n : Nat}
    (h : (verdictOf bs i).line = some n) : ∃ b ∈ bs, b.line = n := by
  unfold verdictOf at h
  split_ifs at h
  · split at h
    next b hfound => exact ⟨b, List.mem_of_find?_eq_some hfound, Option.some.inj h⟩
    next => exact absurd h (by simp)
  · exact absurd h (by simp)

/-- The verdict of a filter from which a dead block has been deleted. -/
theorem IsDead.verdict_withoutBlock (h : IsDead filter d) (i : Item) :
    verdict (withoutBlock filter d) i = (verdict filter i).movedUp d.line (height filter d) := by
  obtain ⟨above, below, hblocks, hremaining, habove, hbelow⟩ := exists_blocks_split h.mem
  have hcovered : d.applies i = true → ∃ b ∈ above, b.applies i = true := by
    intro happlies
    obtain ⟨b, hb, hlt, hcovers⟩ := h.covered
    refine ⟨b, ?_, Block.applies_iff.2 fun c hc => Block.applies_iff.1 happlies c (hcovers c hc)⟩
    have hlines := pairwise_blocks filter
    rw [hblocks, List.pairwise_append, List.pairwise_cons] at hlines
    rw [hblocks, List.mem_append, List.mem_cons] at hb
    -- the dead block and the blocks behind it do not stand above it
    rcases hb with hb | rfl | hb
    · exact hb
    · omega
    · have := hlines.2.1.1 b hb
      omega
  rw [verdict_eq, verdict_eq, hblocks, hremaining, verdictOf_append_cons hcovered,
    verdictOf_append_shifted, verdictOf_append]
  -- a match above stays, and a match below was further down by the height of the block
  split_ifs
  · refine (Verdict.movedUp_of_le (fun n hn => ?_) _).symm
    obtain ⟨b, hb, rfl⟩ := exists_mem_of_line_verdictOf hn
    exact (habove b hb).le
  · refine (Verdict.movedUp_shifted (fun n hn => ?_) (Nat.succ_pos _)).symm
    obtain ⟨b, hb, rfl⟩ := exists_mem_of_line_verdictOf hn
    exact hbelow b hb

/-- **Dead blocks can be deleted.** Behind a block without conditions every block is dead. A dead
block is the match of no item, and no verdict names its line. If its lines are deleted, from its
header up to the next header, the other lines of the filter remain, and every item is displayed as
before; only a match below the deleted lines has moved up, by their number. -/
theorem verdict_withoutBlock_of_isDead (filter : Text) :
    (∀ b ∈ blocks filter, b.isCatchAll = true →
      ∀ d ∈ blocks filter, b.line < d.line → IsDead filter d) ∧
    ∀ d, IsDead filter d →
      (∀ i, firstMatch? (blocks filter) i ≠ some d ∧ (verdict filter i).line ≠ some d.line) ∧
      Text.lines (withoutBlock filter d) =
        (Text.lines filter).take (d.line - 1) ++
          (Text.lines filter).drop (d.line + (body filter d).length) ∧
      ∀ i, (verdict (withoutBlock filter d) i).isHidden = (verdict filter i).isHidden ∧
        (verdict (withoutBlock filter d) i).style = (verdict filter i).style ∧
        (verdict (withoutBlock filter d) i).line = (verdict filter i).line.map fun n =>
          if d.line < n then n - ((body filter d).length + 1) else n := by
  refine ⟨fun b hb hall d hd hlt => isDead_of_isCatchAll hb hall hd hlt, fun d h => ?_⟩
  refine ⟨fun i => ⟨h.firstMatch?_ne i, h.line_verdict_ne i⟩, lines_withoutBlock h.mem, fun i => ?_⟩
  rw [h.verdict_withoutBlock i]
  exact ⟨rfl, rfl, rfl⟩

/-- Blocks on rings and on rare rings, a block that hides everything else, and a block behind it. -/
def ringsTwice : Text :=
  "Show\n\tClass Rings\nShow # all\nHide\r\n\tRarity Rare\n\n\tClass Rings\n" ++
    "Hide\nShow\n\tRarity Unique\n"

/-- The lines of the block on rare rings, a blank one among them, can be deleted, and so could those
of the block at the end. -/
theorem verdict_withoutBlock_of_isDead_ringsTwice :
    ∃ d ∈ blocks ringsTwice, d.line = 4 ∧ IsDead ringsTwice d ∧
      Text.lines (withoutBlock ringsTwice d) =
        ["Show", "\tClass Rings", "Show # all", "Hide", "Show", "\tRarity Unique"] ∧
      (verdict ringsTwice (.ofBaseType "Amulet")).line = some 8 ∧
      (verdict (withoutBlock ringsTwice d) (.ofBaseType "Amulet")).line = some 4 ∧
      (verdict (withoutBlock ringsTwice d) (.ofBaseType "Amulet")).isHidden = true ∧
      ∃ e ∈ blocks ringsTwice, e.line = 9 ∧ IsDead ringsTwice e := by
  obtain ⟨hbehind, hdead⟩ := verdict_withoutBlock_of_isDead ringsTwice
  obtain ⟨b, hb, d, hd, hlt, hcovers, hline⟩ : ∃ b ∈ blocks ringsTwice, ∃ d ∈ blocks ringsTwice,
      b.line < d.line ∧ (∀ c ∈ b.conditions, c ∈ d.conditions) ∧ d.line = 4 := by decide
  obtain ⟨all, hall, hcatches, e, he, hbelow, hlast⟩ : ∃ all ∈ blocks ringsTwice,
      all.isCatchAll = true ∧ ∃ e ∈ blocks ringsTwice, all.line < e.line ∧ e.line = 9 := by decide
  have hbody : (body ringsTwice d).length = 3 := by
    rw [body, hline]
    decide
  obtain ⟨-, hlines, hverdict⟩ := hdead d ⟨hd, b, hb, hlt, hcovers⟩
  obtain ⟨hhidden, -, hmoved⟩ := hverdict (.ofBaseType "Amulet")
  have hamulet : (verdict ringsTwice (.ofBaseType "Amulet")).line = some 8 := by decide
  refine ⟨d, hd, hline, ⟨hd, b, hb, hlt, hcovers⟩, ?_, hamulet, ?_, ?_, e, he, hlast,
    hbehind all hall hcatches e he hbelow⟩
  · rw [hlines, hline, hbody]
    decide
  · rw [hmoved, hamulet, hline, hbody]
    rfl
  · rw [hhidden]
    decide

end Filter

end LootFilter
