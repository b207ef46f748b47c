import LootFilter.Filter.Verdict
import LootFilter.Proofs.Filter.Sections

/-!
# The first match

A verdict names a line and a style. What it says can be checked against the text of the filter: the
line is the header of a block that matches the item, and no block above it does. If the verdict
names no line, then no block matches, or the item has no base type and no block is asked.

Blocks are asked in the order of the text, so the first match in the list of blocks is the match
that stands highest.

## Main definitions

* `Filter.IsFirstMatch` — a block that matches an item, below blocks that do not

## Main results

* `Filter.firstMatch?_eq_some_iff` — the search finds exactly the first match
* `Filter.verdict_cases` — a verdict is that of the first match, or there is no match
* `Filter.verdict_isFirstMatch_and_batch` — what verdicts say about the text, for one item and for
  many
-/

namespace LootFilter

@[simp] theorem Verdict.line_ofBlock (b : Block) : (ofBlock b).line = some b.line := rfl

@[simp] theorem Verdict.line_unmatched : unmatched.line = none := rfl

theorem Block.applies_iff {b : Block} {i : Item} :
    b.applies i = true ↔ ∀ c ∈ b.conditions, c.holds i = true :=
  List.all_eq_true

theorem Block.not_applies_iff {b : Block} {i : Item} :
    b.applies i = false ↔ ∃ c ∈ b.conditions, c.holds i = false := by
  simp [applies]

theorem Block.keyword_visibility (b : Block) :
    b.visibility.keyword = if b.isHide then ("Hide" : Text) else "Show" := by
  unfold isHide
  cases b.visibility <;> rfl

namespace Filter

variable {filter : Text} {i : Item} {b : Block}

/-- A block of a filter that matches an item, while no block above it does. -/
structure IsFirstMatch (filter : Text) (i : Item) (b : Block) : Prop where
  mem : b ∈ blocks filter
  holds : ∀ c ∈ b.conditions, c.holds i = true
  above : ∀ b' ∈ blocks filter, b'.line < b.line → ∃ c ∈ b'.conditions, c.holds i = false

theorem IsFirstMatch.of_firstMatch? (h : firstMatch? (blocks filter) i = some b) :
    IsFirstMatch filter i b := by
  obtain ⟨hb, xs, ys, hblocks, hxs⟩ := List.find?_eq_some_iff_append.1 h
  refine ⟨by simp [hblocks], Block.applies_iff.1 hb, fun b' hb' hlt => ?_⟩
  have hlines := pairwise_blocks filter
  rw [hblocks, List.pairwise_append, List.pairwise_cons] at hlines
  rw [hblocks] at hb'
  -- a block that is not asked before `b` does not stand above it
  rcases List.mem_append.1 hb' with hb' | hb'
  · exact Block.not_applies_iff.1 (by simpa using hxs b' hb')
  · rcases List.mem_cons.1 hb' with rfl | hb'
    · omega
    · have := hlines.2.1.1 b' hb'
      omega

theorem IsFirstMatch.unique {b' : Block} (h : IsFirstMatch filter i b)
    (h' : IsFirstMatch filter i b') : b = b' := by
  refine eq_of_line_eq h.mem h'.mem ?_
  by_contra hne
  -- otherwise one of the two stands above the other and matches nevertheless
  rcases Nat.lt_or_gt_of_ne hne with hlt | hlt
  · obtain ⟨c, hc, hfails⟩ := h'.above b h.mem hlt
    simp [h.holds c hc] at hfails
  · obtain ⟨c, hc, hfails⟩ := h.above b' h'.mem hlt
    simp [h'.holds c hc] at hfails

theorem firstMatch?_eq_none_iff :
    firstMatch? (blocks filter) i = none ↔
      ∀ b ∈ blocks filter, ∃ c ∈ b.conditions, c.holds i = false := by
  simp only [firstMatch?, List.find?_eq_none, Bool.not_eq_true, Block.not_applies_iff]

/-- The search finds exactly the first match. -/
theorem firstMatch?_eq_some_iff :
    firstMatch? (blocks filter) i = some b ↔ IsFirstMatch filter i b := by
  refine ⟨IsFirstMatch.of_firstMatch?, fun h => ?_⟩
  cases hfound : firstMatch? (blocks filter) i with
  | some b' => rw [(IsFirstMatch.of_firstMatch? hfound).unique h]
  | none =>
    obtain ⟨c, hc, hfails⟩ := firstMatch?_eq_none_iff.1 hfound b h.mem
    simp [h.holds c hc] at hfails

/-- Where a block matches, the first match stands at the block or above it. -/
theorem exists_isFirstMatch_of_applies (hb : b ∈ blocks filter) (hi : b.applies i = true) :
    ∃ b', IsFirstMatch filter i b' ∧ b'.line ≤ b.line := by
  cases hfound : firstMatch? (blocks filter) i with
  | none =>
    obtain ⟨c, hc, hfails⟩ := firstMatch?_eq_none_iff.1 hfound b hb
    rw [Block.applies_iff.1 hi c hc] at hfails
    exact absurd hfails (by simp)
  | some b' =>
    have hb' := firstMatch?_eq_some_iff.1 hfound
    refine ⟨b', hb', ?_⟩
    by_contra hlt
    obtain ⟨c, hc, hfails⟩ := hb'.above b hb (by omega)
    rw [Block.applies_iff.1 hi c hc] at hfails
    exact absurd hfails (by simp)

/-- Without a base type the blocks do not matter, so a verdict is always one of blocks. -/
theorem verdict_eq (filter : Text) (i : Item) : verdict filter i = verdictOf (blocks filter) i := by
  unfold verdict verdictOf
  split <;> rfl

/-- A verdict is that of the first match; without a match, or without a base type, there is none. -/
theorem verdict_cases (filter : Text) (i : Item) :
    (i.hasBaseType = true ∧ ∃ b, IsFirstMatch filter i b ∧ verdict filter i = .ofBlock b) ∨
      ((i.hasBaseType = false ∨ ∀ b ∈ blocks filter, ∃ c ∈ b.conditions, c.holds i = false) ∧
        verdict filter i = .unmatched) := by
  rw [verdict_eq, verdictOf]
  cases hbase : i.hasBaseType with
  | false => exact Or.inr ⟨Or.inl rfl, rfl⟩
  | true =>
    cases hfound : firstMatch? (blocks filter) i with
    | some b => exact Or.inl ⟨rfl, b, firstMatch?_eq_some_iff.1 hfound, rfl⟩
    | none => exact Or.inr ⟨Or.inr (firstMatch?_eq_none_iff.1 hfound), rfl⟩

theorem line_verdict (h : i.hasBaseType = true) :
    (verdict filter i).line = (firstMatch? (blocks filter) i).map Block.line := by
  rw [verdict_eq, verdictOf, if_pos h]
  cases firstMatch? (blocks filter) i <;> rfl

/-- The match is the block on the line that the verdict names. -/
theorem firstMatch?_eq_some_iff_line (h : i.hasBaseType = true) :
    firstMatch? (blocks filter) i = some b ↔
      b ∈ blocks filter ∧ (verdict filter i).line = some b.line := by
  rw [line_verdict h]
  constructor
  · intro hfound
    exact ⟨(firstMatch?_eq_some_iff.1 hfound).mem, by rw [hfound, Option.map_some]⟩
  · rintro ⟨hb, hline⟩
    obtain ⟨b', hfound, hsame⟩ := Option.map_eq_some_iff.1 hline
    -- no two blocks begin on one line, so the line tells the block
    rw [hfound, eq_of_line_eq (firstMatch?_eq_some_iff.1 hfound).mem hb hsame]

/-- **First match wins, and the text shows it.** If a verdict names a line, then the line is the
header that the verdict tells, the block that begins there matches the item, no block above it does,
and the style is that of the block. If it names none, the item is shown in the default style, and no
block matches it unless it has no base type.

Blocks that were read once give the same verdicts on a batch of items, show those that are not
hidden, in order, and find the block on the line that the verdict names. -/
theorem verdict_isFirstMatch_and_batch (filter : Text) :
    (∀ i n, (verdict filter i).line = some n →
      (∃ raw, (raw, n) ∈ Text.numberedLines filter ∧
        Text.trim raw = if (verdict filter i).isHidden then ("Hide" : Text) else "Show") ∧
      ∃ b, IsFirstMatch filter i b ∧ b.line = n ∧ (verdict filter i).style = b.style ∧
        ∀ b' ∈ blocks filter, b'.line = n → b' = b) ∧
    (∀ i, (verdict filter i).line = none →
      (verdict filter i).isHidden = false ∧ (verdict filter i).style = .default ∧
        (i.hasBaseType = false ∨
          ∀ b ∈ blocks filter, ∃ c ∈ b.conditions, c.holds i = false)) ∧
    (∀ items : List Item,
      items.map (verdictOf (blocks filter)) = items.map (verdict filter) ∧
        visibleItems (blocks filter) items =
          items.filter fun i => !(verdict filter i).isHidden) ∧
    ∀ i, i.hasBaseType = true → ∀ b,
      firstMatch? (blocks filter) i = some b ↔
        b ∈ blocks filter ∧ (verdict filter i).line = some b.line := by
  refine ⟨?_, ?_, ?_, ?_⟩
  · intro i n hline
    rcases verdict_cases filter i with ⟨-, b, hb, hverdict⟩ | ⟨-, hverdict⟩
    · rw [hverdict] at hline ⊢
      obtain rfl : b.line = n := Option.some.inj hline
      have hheader := exists_header hb.mem
      rw [Block.keyword_visibility] at hheader
      exact ⟨hheader, b, hb, rfl, rfl, fun b' hb' h => eq_of_line_eq hb' hb.mem h⟩
    · simp [hverdict] at hline
  · intro i hline
    rcases verdict_cases filter i with ⟨-, b, -, hverdict⟩ | ⟨hnone, hverdict⟩
    · simp [hverdict] at hline
    · rw [hverdict]
      exact ⟨rfl, rfl, hnone⟩
  · intro items
    have hsame : verdictOf (blocks filter) = verdict filter :=
      funext fun i => (verdict_eq filter i).symm
    rw [visibleItems, hsame]
    exact ⟨rfl, rfl⟩
  · intro i hbase b
    exact firstMatch?_eq_some_iff_line hbase

/-- A filter that hides normal items and shows rings. -/
def rings : Text := "Hide\n\tRarity Normal\n Show \n\tBaseType Ring\n"

/-- A ring of unknown rarity is shown as a ring; an amulet is matched by no block. -/
theorem verdict_isFirstMatch_and_batch_rings :
    (verdict rings (.ofBaseType "Ring")).line = some 3 ∧
      (∃ raw, (raw, 3) ∈ Text.numberedLines rings ∧
        Text.trim raw = if (verdict rings (.ofBaseType "Ring")).isHidden then ("Hide" : Text)
          else "Show") ∧
      (∃ b, IsFirstMatch rings (.ofBaseType "Ring") b ∧ b.line = 3) ∧
      (verdict rings (.ofBaseType "Amulet")).line = none ∧
      (verdict rings (.ofBaseType "Amulet")).isHidden = false ∧
      (Item.ofBaseType "Ring").hasBaseType = true ∧
      ∀ b, firstMatch? (blocks rings) (.ofBaseType "Ring") = some b ↔
        b ∈ blocks rings ∧ (verdict rings (.ofBaseType "Ring")).line = some b.line := by
  obtain ⟨hmatch, hnone, -, hfound⟩ := verdict_isFirstMatch_and_batch rings
  have hring : (verdict rings (.ofBaseType "Ring")).line = some 3 := by decide
  have hamulet : (verdict rings (.ofBaseType "Amulet")).line = none := by decide
  have hbase : (Item.ofBaseType "Ring").hasBaseType = true := by decide
  obtain ⟨hheader, b, hb, hline, -⟩ := hmatch _ _ hring
  exact ⟨hring, hheader, ⟨b, hb, hline⟩, hamulet, (hnone _ hamulet).1, hbase, hfound _ hbase⟩

end Filter

end LootFilter
