import LootFilter.Proofs.Filter.Formatting
import LootFilter.Proofs.Filter.LastDirective

/-!
# The order of lines in a block

The conditions of a block have to hold together, so their order plays no part in what the block
matches. Directives for different fields of the style do not see one another, and of several
directives for one field the last one counts. So the lines of a block can change places as long as
the lines that set one and the same field stay in their order. The number of lines stays the same,
and with it the place of every header below.

Two filters that differ in this way are read into blocks that are alike: only the order of their
conditions differs. One line keeps blocks alike, so the lines below keep them alike.

## Main definitions

* `Line.sets`, `Line.Rearranged` — lines in another order, those for one field in their order
* `Block.Alike` — blocks that differ at most in the order of their conditions

## Main results

* `Style.foldl_apply_congr` — directives for different fields can change places in a run
* `Filter.alike_foldl_step` — the pass over some lines keeps blocks alike
* `Filter.verdict_eq_of_rearranged` — verdicts do not depend on the order of lines in a block
-/

namespace LootFilter

/-! ### Directives in another order -/

theorem Style.ext_get {s s' : Style} (h : ∀ f, s.get f = s'.get f) : s = s' := by
  obtain ⟨size, text, border, background, beam⟩ := s
  obtain ⟨size', text', border', background', beam'⟩ := s'
  obtain rfl : size = size' := h .fontSize
  obtain rfl : text = text' := h .textColor
  obtain rfl : border = border' := h .borderColor
  obtain rfl : background = background' := h .backgroundColor
  obtain rfl : beam = beam' := h .beam
  rfl

theorem Directive.value?_eq_none_of_target_ne {d : Directive} {f : StyleField}
    (h : d.target ≠ f) : d.value? f = none := by
  cases d <;> cases f <;> simp_all [target, value?]

/-- A field gets its value from the directives for it. -/
theorem Directive.filterMap_value?_filter (ds : List Directive) (f : StyleField) :
    (ds.filter (·.target = f)).filterMap (·.value? f) = ds.filterMap (·.value? f) := by
  rw [List.filterMap_filter]
  congr 1
  funext d
  split
  next => rfl
  next h => rw [value?_eq_none_of_target_ne (by simpa using h)]

/-- Two runs of directives in which the directives for each field are the same, in the same order,
make the same style. -/
theorem Style.foldl_apply_congr {ds ds' : List Directive}
    (h : ∀ f, ds.filter (·.target = f) = ds'.filter (·.target = f)) (s : Style) :
    ds.foldl apply s = ds'.foldl apply s := by
  apply ext_get
  intro f
  rw [get_foldl_apply, get_foldl_apply, ← Directive.filterMap_value?_filter ds, h f,
    Directive.filterMap_value?_filter]

/-! ### Lines in another order -/

namespace Line

/-- Whether a line is a directive for a field. -/
def sets (f : StyleField) (raw : Text) : Bool := (directive? raw).any (·.target = f)

/-- The same lines in another order, in which the lines that set one and the same field have kept
their order. -/
structure Rearranged (ls ls' : List Text) : Prop where
  perm : ls.Perm ls'
  order : ∀ f, ls.filter (sets f) = ls'.filter (sets f)

theorem filter_target_filterMap_directive? (ls : List Text) (f : StyleField) :
    (ls.filterMap directive?).filter (·.target = f) =
      (ls.filter (sets f)).filterMap directive? := by
  rw [List.filter_filterMap, List.filterMap_filter]
  congr 1
  funext raw
  unfold sets
  cases directive? raw with
  | none => rfl
  | some d => simp [Option.filter_some]

/-- Rearranged lines make the same style. -/
theorem Rearranged.foldl_apply {ls ls' : List Text} (h : Rearranged ls ls') (s : Style) :
    (ls.filterMap directive?).foldl Style.apply s =
      (ls'.filterMap directive?).foldl Style.apply s := by
  apply Style.foldl_apply_congr
  intro f
  rw [filter_target_filterMap_directive?, filter_target_filterMap_directive?, h.order f]

end Line

/-! ### Blocks that are alike -/

namespace Block

/-- Blocks that differ at most in the order of their conditions. -/
structure Alike (b b' : Block) : Prop where
  line : b.line = b'.line
  visibility : b.visibility = b'.visibility
  conditions : b.conditions.Perm b'.conditions
  style : b.style = b'.style

variable {b b' : Block}

theorem Alike.refl (b : Block) : b.Alike b := ⟨rfl, rfl, .refl _, rfl⟩

theorem Alike.applies (h : b.Alike b') (i : Item) : b.applies i = b'.applies i :=
  h.conditions.all_eq

theorem Alike.ofBlock (h : b.Alike b') : Verdict.ofBlock b = Verdict.ofBlock b' := by
  rw [Verdict.ofBlock, Verdict.ofBlock, isHide, isHide, h.line, h.visibility, h.style]

theorem Alike.add (h : b.Alike b') (line : Line) : (b.add line).Alike (b'.add line) := by
  cases line with
  | condition c => exact ⟨h.line, h.visibility, h.conditions.append_right [c], h.style⟩
  | directive d => exact ⟨h.line, h.visibility, h.conditions, congrArg (·.apply d) h.style⟩
  | other => exact h

/-- Rearranged lines make a block into blocks that are alike. -/
theorem alike_extended_of_rearranged (b : Block) {ls ls' : List Text}
    (h : Line.Rearranged ls ls') : (b.extended ls).Alike (b.extended ls') where
  line := rfl
  visibility := rfl
  conditions := (h.perm.filterMap _).append_left _
  style := h.foldl_apply b.style

end Block

namespace Filter

variable {filter filter' : Text} {ls ls' : List Text} {bs bs' : List Block}

/-- Lists of blocks that are alike give the same verdicts. -/
theorem verdictOf_congr (h : List.Forall₂ Block.Alike bs bs') (i : Item) :
    verdictOf bs i = verdictOf bs' i := by
  unfold verdictOf
  split
  · induction h with
    | nil => rfl
    | @cons b b' _ _ hb _ ih =>
      rw [firstMatch?, firstMatch?, List.find?_cons, List.find?_cons, hb.applies i]
      cases b'.applies i with
      | true => exact hb.ofBlock
      | false => exact ih
  · rfl

/-- One line keeps blocks alike. -/
theorem alike_step (h : List.Forall₂ Block.Alike bs bs') (numbered : Text × Nat) :
    List.Forall₂ Block.Alike (step bs numbered) (step bs' numbered) := by
  unfold step
  cases Visibility.ofLine? numbered.1 with
  | some v => exact .cons (.refl _) h
  | none =>
    cases h with
    | nil => exact .nil
    | cons hb hearlier => exact .cons (hb.add _) hearlier

theorem alike_foldl_step (numbered : List (Text × Nat)) (h : List.Forall₂ Block.Alike bs bs') :
    List.Forall₂ Block.Alike (numbered.foldl step bs) (numbered.foldl step bs') := by
  induction numbered generalizing bs bs' with
  | nil => exact h
  | cons line rest ih => exact ih (alike_step h line)

theorem sectionsFrom_of_forall_not_isHeader (h : ∀ raw ∈ ls, Line.isHeader raw = false) (n : Nat) :
    sectionsFrom n ls = [] := by
  induction ls generalizing n with
  | nil => rfl
  | cons raw rest ih =>
    rw [sectionsFrom_cons_of_not_isHeader (h raw List.mem_cons_self)]
    exact ih (fun l hl => h l (List.mem_cons_of_mem raw hl)) (n + 1)

/-- Without a header, all lines go to the latest block. -/
theorem foldl_step_of_forall_not_isHeader (h : ∀ raw ∈ ls, Line.isHeader raw = false) (n : Nat)
    (state : List Block) :
    (ls.zipIdx n).foldl step state = state.modifyHead (·.extended ls) := by
  have hall : ls.takeWhile (!Line.isHeader ·) = ls :=
    List.takeWhile_eq_self_iff.2 (by simpa using h)
  rw [foldl_step, sectionsFrom_of_forall_not_isHeader h, hall]
  rfl

/-- The pass over rearranged lines without a header leads to blocks that are alike. -/
theorem alike_foldl_step_of_rearranged (h : Line.Rearranged ls ls')
    (hheader : ∀ raw ∈ ls, Line.isHeader raw = false) (n : Nat) (state : List Block) :
    List.Forall₂ Block.Alike ((ls.zipIdx n).foldl step state)
      ((ls'.zipIdx n).foldl step state) := by
  have hheader' : ∀ raw ∈ ls', Line.isHeader raw = false :=
    fun raw hraw => hheader raw (h.perm.mem_iff.2 hraw)
  rw [foldl_step_of_forall_not_isHeader hheader, foldl_step_of_forall_not_isHeader hheader']
  cases state with
  | nil => exact .nil
  | cons b earlier =>
    exact .cons (b.alike_extended_of_rearranged h) (List.forall₂_same.2 fun b _ => .refl b)

/-- Filters whose lines are the same up to rearranged lines between two headers have blocks that
are alike. -/
theorem alike_blocks_of_rearranged {above below : List Text} (h : Line.Rearranged ls ls')
    (hheader : ∀ raw ∈ ls, Line.isHeader raw = false)
    (hlines : Text.lines filter = above ++ ls ++ below)
    (hlines' : Text.lines filter' = above ++ ls' ++ below) :
    List.Forall₂ Block.Alike (blocks filter) (blocks filter') := by
  rw [blocks, blocks, List.forall₂_reverse_iff, Text.numberedLines, Text.numberedLines, hlines,
    hlines']
  simp only [List.zipIdx_append, List.foldl_append, List.length_append]
  -- the lines below have the numbers that they had, as no line has been added
  rw [h.perm.length_eq]
  exact alike_foldl_step _ (alike_foldl_step_of_rearranged h hheader _ _)

theorem lines_eq_append_body (filter : Text) (b : Block) :
    Text.lines filter =
      (Text.lines filter).take b.line ++ body filter b ++
        (Text.lines filter).drop (b.line + (body filter b).length) := by
  have hbody : body filter b ++ (Text.lines filter).drop (b.line + (body filter b).length) =
      (Text.lines filter).drop b.line := by
    rw [← List.drop_drop, body]
    exact List.prefix_iff_eq_append.1 (List.takeWhile_prefix _)
  rw [List.append_assoc, hbody, List.take_append_drop]

/-- **The order of lines in a block.** If the lines of a block are rearranged, where the lines that
set one and the same field of the style keep their order, and all other lines of the filter stay
where they are, then the verdict on every item stays the same, its line included. -/
theorem verdict_eq_of_rearranged (filter : Text) :
    ∀ b ∈ blocks filter, ∀ body', Line.Rearranged (body filter b) body' → ∀ filter',
      Text.lines filter' = (Text.lines filter).take b.line ++ body' ++
        (Text.lines filter).drop (b.line + (body filter b).length) →
      ∀ i, verdict filter' i = verdict filter i := by
  intro b _ body' h filter' hlines' i
  have hheader : ∀ raw ∈ body filter b, Line.isHeader raw = false :=
    fun raw hraw => (of_mem_body hraw).2
  have halike := alike_blocks_of_rearranged h hheader (lines_eq_append_body filter b) hlines'
  rw [verdict_eq, verdict_eq, verdictOf_congr halike i]

/-- A block with the given lines above a block that hides everything. -/
def showAbove (ls : List Text) : Text := Text.unlines (("Show" : Text) :: ls ++ [("Hide" : Text)])

/-- Lines on rare rings, with two sizes. -/
def rareRings : List Text :=
  ["\tSetFontSize 40", "\tRarity Rare", "\tSetFontSize 36", "# small", "\tClass Rings"]

/-- The same lines, the conditions around the sizes. -/
def rareRingsRearranged : List Text :=
  ["\tClass Rings", "# small", "\tSetFontSize 40", "\tSetFontSize 36", "\tRarity Rare"]

/-- The conditions and the comment move freely, and the two sizes keep their order. -/
theorem verdict_eq_of_rearranged_rareRings :
    Line.Rearranged rareRings rareRingsRearranged ∧
      ∀ i, verdict (showAbove rareRingsRearranged) i = verdict (showAbove rareRings) i := by
  have hrearranged : Line.Rearranged rareRings rareRingsRearranged :=
    ⟨by decide, fun f => by cases f <;> decide⟩
  obtain ⟨b, hb, hline⟩ : ∃ b ∈ blocks (showAbove rareRings), b.line = 1 := by decide
  have hbody : body (showAbove rareRings) b = rareRings := by
    rw [body, hline]
    decide
  have hlines : Text.lines (showAbove rareRingsRearranged) =
      (Text.lines (showAbove rareRings)).take b.line ++ rareRingsRearranged ++
        (Text.lines (showAbove rareRings)).drop
          (b.line + (body (showAbove rareRings) b).length) := by
    rw [hbody, hline]
    decide
  have hbody' := hrearranged
  rw [← hbody] at hbody'
  exact ⟨hrearranged, verdict_eq_of_rearranged (showAbove rareRings) b hb _ hbody' _ hlines⟩

end Filter

end LootFilter
