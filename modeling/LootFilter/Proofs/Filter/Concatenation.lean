import LootFilter.Proofs.Filter.FirstMatch

/-!
# Filters one after the other

A filter can be written in pieces. If a piece ends with a line feed, or is empty, the next piece
begins on a line of its own, and the blocks of the whole are read from the pieces: the lines in
front of the first header of the second piece belong to the last block of the first one, and the
blocks of the second piece follow, further down by the lines of the first.

If the second piece begins with a header, nothing is added to the blocks of the first piece, so the
first piece decides on the items that it matches, and the second one on all others.

## Main definitions

* `Block.shifted`, `Verdict.shifted` — a block and a verdict, some lines further down

## Main results

* `Filter.blocks_append` — the blocks of two pieces
* `Filter.verdict_append` — the verdict of two pieces, if the second begins with a header
* `Filter.blocks_append_and_verdict_append` — both together
-/

namespace LootFilter

/-- A block that stands `n` lines further down. -/
def Block.shifted (n : Nat) (b : Block) : Block := { b with line := b.line + n }

/-- A verdict by a block that stands `n` lines further down. -/
def Verdict.shifted (n : Nat) (v : Verdict) : Verdict := { v with line := v.line.map (· + n) }

@[simp] theorem Block.applies_shifted (n : Nat) (b : Block) (i : Item) :
    (b.shifted n).applies i = b.applies i := rfl

@[simp] theorem Verdict.ofBlock_shifted (n : Nat) (b : Block) :
    ofBlock (b.shifted n) = (ofBlock b).shifted n := rfl

@[simp] theorem Verdict.unmatched_shifted (n : Nat) : unmatched.shifted n = unmatched := rfl

namespace Filter

variable {t : Text}

/-! ### Blocks -/

/-- Lines further down have the same sections further down. -/
theorem sectionsFrom_add (n k : Nat) (ls : List Text) :
    (sectionsFrom (n + k) ls).map Section.block =
      ((sectionsFrom n ls).map Section.block).map (·.shifted k) := by
  induction ls generalizing n with
  | nil => rfl
  | cons raw rest ih =>
    have ih' := ih (n + 1)
    rw [Nat.add_right_comm] at ih'
    cases h : Visibility.ofLine? raw with
    | some v =>
      rw [sectionsFrom_cons_header h, sectionsFrom_cons_header h]
      simp only [List.map_cons, ih', List.cons.injEq, and_true]
      rfl
    | none =>
      have hheader : Line.isHeader raw = false := by simp [Line.isHeader, h]
      rw [sectionsFrom_cons_of_not_isHeader hheader, sectionsFrom_cons_of_not_isHeader hheader, ih']

/-- Reading backwards, the head of a list is its last element. -/
theorem reverse_modifyHead_reverse {α : Type} (f : α → α) (l : List α) :
    (l.reverse.modifyHead f).reverse = l.modifyLast f := by
  rcases List.eq_nil_or_concat l with rfl | ⟨init, a, rfl⟩
  · rfl
  · simp [List.modifyLast_concat]

/-- The blocks of two pieces: the last block of the first piece goes on until the first header of
the second one. -/
theorem blocks_append (h : Text.EndsLine t) (u : Text) :
    blocks (t ++ u) =
      (blocks t).modifyLast (·.extended (preamble u)) ++
        (blocks u).map (·.shifted (Text.lines t).length) := by
  -- the pass over the second piece starts from the blocks of the first one, the latest first
  have hstate : ((Text.lines t).zipIdx 1).foldl step [] = (blocks t).reverse := by
    simp [blocks, Text.numberedLines]
  rw [blocks, Text.numberedLines, Text.lines_append h, List.zipIdx_append, List.foldl_append,
    hstate, foldl_step, List.reverse_append, List.reverse_reverse, reverse_modifyHead_reverse,
    sectionsFrom_add, blocks_eq u]
  rfl

/-! ### Verdicts -/

/-- The first match is looked for among the blocks of the first piece, then among the others. -/
theorem verdictOf_append_shifted (xs ys : List Block) (n : Nat) (i : Item) :
    verdictOf (xs ++ ys.map (·.shifted n)) i =
      if (verdictOf xs i).line.isSome then verdictOf xs i else (verdictOf ys i).shifted n := by
  by_cases hbase : i.hasBaseType = true
  · simp only [verdictOf, hbase, if_true, firstMatch?, List.find?_append, List.find?_map]
    cases xs.find? (·.applies i) with
    | some b => simp
    | none =>
      -- standing further down plays no part in whether a block matches
      have he : (Block.applies · i) ∘ Block.shifted n = (Block.applies · i) := rfl
      cases hys : ys.find? (·.applies i) <;> simp [he, hys]
  · simp [verdictOf, hbase]

theorem exists_lines_eq_cons {u : Text} (hu : (Text.lines u).head?.any Line.isHeader = true) :
    ∃ raw rest, Text.lines u = raw :: rest ∧ Line.isHeader raw = true := by
  cases hlines : Text.lines u with
  | nil => simp [hlines] at hu
  | cons raw rest => exact ⟨raw, rest, rfl, by simpa [hlines] using hu⟩

/-- A second piece that begins with a header leaves the blocks of the first one alone. -/
theorem verdict_append (h : Text.EndsLine t) {u : Text}
    (hu : (Text.lines u).head?.any Line.isHeader = true) (i : Item) :
    verdict (t ++ u) i =
      if (verdict t i).line.isSome then verdict t i
      else (verdict u i).shifted (Text.lines t).length := by
  have hpreamble : preamble u = [] := by
    obtain ⟨raw, rest, hlines, hheader⟩ := exists_lines_eq_cons hu
    rw [preamble, hlines, List.takeWhile_cons_of_neg (by simpa using hheader)]
  have hlast : (blocks t).modifyLast (·.extended (preamble u)) = blocks t := by
    rw [hpreamble]
    rcases List.eq_nil_or_concat (blocks t) with e | ⟨init, b, e⟩
    · rw [e]
      rfl
    · rw [e, List.concat_eq_append, List.modifyLast_concat, Block.extended_nil]
  rw [verdict_eq, verdict_eq, verdict_eq, blocks_append h, hlast]
  exact verdictOf_append_shifted _ _ _ i

/-- **Filters in pieces.** The blocks of two pieces are the blocks of the first one, the last of
which goes on until the first header of the second piece, and then the blocks of the second piece.
Where the second piece begins with a header, the first piece decides on what it matches, and the
second piece on everything else. -/
theorem blocks_append_and_verdict_append (h : Text.EndsLine t) (u : Text) :
    blocks (t ++ u) =
        (blocks t).modifyLast (·.extended (preamble u)) ++
          (blocks u).map (·.shifted (Text.lines t).length) ∧
      ((Text.lines u).head?.any Line.isHeader = true → ∀ i, verdict (t ++ u) i =
        if (verdict t i).line.isSome then verdict t i
        else (verdict u i).shifted (Text.lines t).length) :=
  ⟨blocks_append h u, fun hu i => verdict_append h hu i⟩

/-- Behind a block on rare items, a piece that begins with a condition narrows the block, and a
piece that begins with a header decides on what is not rare. -/
theorem append_to_rare_block :
    Text.EndsLine "Show\n\tRarity Rare\n" ∧
      blocks (("Show\n\tRarity Rare\n" : Text) ++ ("\tQuality > 9\nHide\n" : Text)) =
        (blocks "Show\n\tRarity Rare\n").modifyLast (·.extended ["\tQuality > 9"]) ++
          (blocks "\tQuality > 9\nHide\n").map (·.shifted 2) ∧
      (Text.lines "Hide\n").head?.any Line.isHeader = true ∧
      verdict (("Show\n\tRarity Rare\n" : Text) ++ ("Hide\n" : Text)) (.ofBaseType "Ring") =
        (verdict "Hide\n" (.ofBaseType "Ring")).shifted 2 := by
  have hends : Text.EndsLine "Show\n\tRarity Rare\n" := Or.inr (by decide)
  have hcount : (Text.lines "Show\n\tRarity Rare\n").length = 2 := by decide
  have hpreamble : preamble "\tQuality > 9\nHide\n" = [("\tQuality > 9" : Text)] := by decide
  have hheader : (Text.lines "Hide\n").head?.any Line.isHeader = true := by decide
  have hfirst : (verdict "Show\n\tRarity Rare\n" (.ofBaseType "Ring")).line.isSome = false := by
    decide
  refine ⟨hends, ?_, hheader, ?_⟩
  · have hblocks := (blocks_append_and_verdict_append hends "\tQuality > 9\nHide\n").1
    rwa [hpreamble, hcount] at hblocks
  · have hverdict :=
      (blocks_append_and_verdict_append hends "Hide\n").2 hheader (.ofBaseType "Ring")
    rwa [hfirst, if_neg (by decide), hcount] at hverdict

end Filter

end LootFilter
