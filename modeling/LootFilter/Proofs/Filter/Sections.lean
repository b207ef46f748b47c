import LootFilter.Filter.Block
import LootFilter.Proofs.Text.Words
import Mathlib.Data.List.ModifyLast
import Mathlib.Data.List.Nodup

/-!
# Sections of a filter

The pass over a filter grows the latest block line by line. What it arrives at can be said without
a pass: a header and the lines behind it, up to the next header, are a section, and each section
stands for one block. The lines in front of the first header are the preamble, which stands for
nothing.

## Main definitions

* `Line.isHeader`, `Line.condition?`, `Line.directive?` — what a line of a filter stands for
* `Section`, `Filter.sections` — a header with the lines behind it
* `Filter.preamble`, `Filter.body` — the lines in front of the first header, the lines of a block
* `Block.extended` — a block after some more lines

## Main results

* `Filter.foldl_step` — the pass over some lines, from any state
* `Filter.blocks_eq` — the blocks of a filter are its sections, read one by one
* `Filter.exists_section` — the lines of a block are the lines of its section
-/

namespace LootFilter

/-! ### Lines -/

theorem Text.trim_withoutComment (raw : Text) :
    Text.trim (withoutComment raw) = withoutComment raw :=
  trim_trim _

/-- A header carries no comment, so cutting comments off leaves its keyword. -/
theorem Text.withoutComment_of_ofLine? {raw : Text} {v : Visibility}
    (h : Visibility.ofLine? raw = some v) : withoutComment raw = v.keyword := by
  have e := Visibility.ofLine?_eq_some_iff.1 h
  have hkeep : ∀ c ∈ raw, decide (c ≠ '#') = true := by
    intro c hc
    by_contra hne
    obtain rfl : c = '#' := by simpa using hne
    have := mem_trim_of_not_isBlank hc (by decide)
    rw [e] at this
    cases v <;> exact absurd this (by decide)
  rw [withoutComment, List.takeWhile_eq_self_iff.2 hkeep, e]

namespace Line

/-- Whether a line is the header of a block. -/
def isHeader (raw : Text) : Bool := (Visibility.ofLine? raw).isSome

/-- The condition that a line of a filter stands for, its comment aside. -/
def condition? (raw : Text) : Option Condition :=
  match classify (Text.withoutComment raw) with
  | .condition c => some c
  | _ => none

/-- The directive that a line of a filter stands for, its comment aside. -/
def directive? (raw : Text) : Option Directive :=
  match classify (Text.withoutComment raw) with
  | .directive d => some d
  | _ => none

/-- Without its comment, a header is not blank. -/
theorem isHeader_of_blank {raw : Text} (h : Text.withoutComment raw = []) :
    isHeader raw = false := by
  by_contra hne
  obtain ⟨v, hv⟩ := Option.isSome_iff_exists.1 (by simpa using hne : isHeader raw = true)
  rw [Text.withoutComment_of_ofLine? hv] at h
  cases v <;> exact absurd h (by decide)

/-- A line stands for a condition exactly if it can be read as one: conditions come first. -/
theorem condition?_eq (raw : Text) :
    condition? raw = Condition.ofLine? (Text.withoutComment raw) := by
  unfold condition? classify
  cases Condition.ofLine? (Text.withoutComment raw) with
  | some c => rfl
  | none =>
    dsimp only
    split_ifs
    · cases Directive.ofLine? (Text.withoutComment raw) <;> rfl
    · rfl

end Line

/-! ### Blocks -/

namespace Block

/-- The block after some more lines: their conditions join it in order, and their directives are
applied in order. -/
def extended (b : Block) (body : List Text) : Block where
  line := b.line
  visibility := b.visibility
  conditions := b.conditions ++ body.filterMap Line.condition?
  style := (body.filterMap Line.directive?).foldl Style.apply b.style

@[simp] theorem extended_nil (b : Block) : b.extended [] = b := by
  simp [extended]

theorem extended_cons (b : Block) (raw : Text) (body : List Text) :
    b.extended (raw :: body) =
      (b.add (Line.classify (Text.withoutComment raw))).extended body := by
  cases h : Line.classify (Text.withoutComment raw) <;>
    simp [extended, add, Line.condition?, Line.directive?, h]

end Block

/-- A header and the lines behind it, up to the next header. -/
structure Section where
  /-- The number of the line with the header. -/
  line : Nat
  /-- The header. -/
  visibility : Visibility
  /-- The lines behind the header. -/
  body : List Text
  deriving Repr, DecidableEq

/-- The block that a section stands for. -/
def Section.block (s : Section) : Block :=
  Block.extended { line := s.line, visibility := s.visibility } s.body

theorem Section.block_conditions (s : Section) :
    s.block.conditions = s.body.filterMap Line.condition? := by
  simp [block, Block.extended]

theorem Section.block_style (s : Section) :
    s.block.style = (s.body.filterMap Line.directive?).foldl Style.apply .default := rfl

namespace Filter

/-- The sections of some lines, the first of which has the number `n`. -/
def sectionsFrom (n : Nat) : List Text → List Section
  | [] => []
  | raw :: rest =>
    match Visibility.ofLine? raw with
    | some v => ⟨n, v, rest.takeWhile (!Line.isHeader ·)⟩ :: sectionsFrom (n + 1) rest
    | none => sectionsFrom (n + 1) rest

/-- The sections of a filter. -/
def sections (filter : Text) : List Section := sectionsFrom 1 (Text.lines filter)

/-- The lines in front of the first header. -/
def preamble (filter : Text) : List Text := (Text.lines filter).takeWhile (!Line.isHeader ·)

/-- The lines of a block: those behind its header, up to the next header. -/
def body (filter : Text) (b : Block) : List Text :=
  ((Text.lines filter).drop b.line).takeWhile (!Line.isHeader ·)

@[simp] theorem sectionsFrom_nil (n : Nat) : sectionsFrom n [] = [] := rfl

theorem sectionsFrom_cons_header {raw : Text} {v : Visibility}
    (h : Visibility.ofLine? raw = some v) (n : Nat) (rest : List Text) :
    sectionsFrom n (raw :: rest) =
      ⟨n, v, rest.takeWhile (!Line.isHeader ·)⟩ :: sectionsFrom (n + 1) rest := by
  simp [sectionsFrom, h]

theorem sectionsFrom_cons_of_not_isHeader {raw : Text} (h : Line.isHeader raw = false) (n : Nat)
    (rest : List Text) : sectionsFrom n (raw :: rest) = sectionsFrom (n + 1) rest := by
  have : Visibility.ofLine? raw = none := by simpa [Line.isHeader] using h
  simp [sectionsFrom, this]

/-! ### The pass over a filter -/

/-- The pass over some lines, from any state: the lines in front of the first header go to the
latest block, and each section becomes a block. -/
theorem foldl_step (n : Nat) (ls : List Text) (state : List Block) :
    (ls.zipIdx n).foldl step state =
      ((sectionsFrom n ls).map Section.block).reverse ++
        state.modifyHead (·.extended (ls.takeWhile (!Line.isHeader ·))) := by
  -- the state has to be arbitrary: a header replaces its head, and other lines extend its head
  induction ls generalizing n state with
  | nil => cases state <;> simp
  | cons raw rest ih =>
    rw [List.zipIdx_cons, List.foldl_cons, ih]
    cases h : Visibility.ofLine? raw with
    | some v =>
      have hheader : Line.isHeader raw = true := by simp [Line.isHeader, h]
      have hstate : state.modifyHead (fun b => b) = state := by cases state <;> rfl
      simp [step, h, sectionsFrom_cons_header h, hheader, hstate, Section.block]
    | none =>
      have hheader : Line.isHeader raw = false := by simp [Line.isHeader, h]
      rw [sectionsFrom_cons_of_not_isHeader hheader]
      cases state with
      | nil => simp [step, h]
      | cons b earlier => simp [step, h, hheader, Block.extended_cons]

/-- The blocks of a filter are its sections, read one by one. -/
theorem blocks_eq (filter : Text) : blocks filter = (sections filter).map Section.block := by
  have h := foldl_step 1 (Text.lines filter) []
  simpa [blocks, Text.numberedLines, sections] using congrArg List.reverse h

/-- Later lines of a filter have later sections, with the same lines. -/
theorem of_mem_sectionsFrom {n : Nat} {ls : List Text} {s : Section}
    (h : s ∈ sectionsFrom (n + 1) ls) :
    n < s.line ∧ s.line ≤ n + ls.length ∧
      s.body = (ls.drop (s.line - n)).takeWhile (!Line.isHeader ·) := by
  induction ls generalizing n with
  | nil => simp at h
  | cons raw rest ih =>
    -- a section behind the first line keeps its lines, as one line more is dropped
    have later : s ∈ sectionsFrom (n + 1 + 1) rest →
        n < s.line ∧ s.line ≤ n + (raw :: rest).length ∧
          s.body = ((raw :: rest).drop (s.line - n)).takeWhile (!Line.isHeader ·) := by
      intro hs
      obtain ⟨hlt, hle, hbody⟩ := ih hs
      obtain ⟨k, hk⟩ : ∃ k, s.line - n = k + 1 := ⟨s.line - n - 1, by omega⟩
      have hk' : s.line - (n + 1) = k := by omega
      refine ⟨by omega, by simp only [List.length_cons]; omega, ?_⟩
      rw [hbody, hk, hk', List.drop_succ_cons]
    cases hv : Visibility.ofLine? raw with
    | none =>
      rw [sectionsFrom_cons_of_not_isHeader (by simp [Line.isHeader, hv])] at h
      exact later h
    | some v =>
      rw [sectionsFrom_cons_header hv] at h
      rcases List.mem_cons.1 h with rfl | h
      · simp
      · exact later h

/-- Sections stand one below the other. -/
theorem pairwise_sectionsFrom (n : Nat) (ls : List Text) :
    (sectionsFrom (n + 1) ls).Pairwise fun s s' => s.line < s'.line := by
  induction ls generalizing n with
  | nil => exact List.Pairwise.nil
  | cons raw rest ih =>
    cases h : Visibility.ofLine? raw with
    | some v =>
      rw [sectionsFrom_cons_header h, List.pairwise_cons]
      exact ⟨fun s hs => (of_mem_sectionsFrom hs).1, ih (n + 1)⟩
    | none =>
      rw [sectionsFrom_cons_of_not_isHeader (by simp [Line.isHeader, h])]
      exact ih (n + 1)

/-- Headers stand one below the other. -/
theorem pairwise_blocks (filter : Text) :
    (blocks filter).Pairwise fun b b' => b.line < b'.line := by
  rw [blocks_eq]
  exact (pairwise_sectionsFrom 0 _).map _ fun _ _ h => h

/-- There is a section for each header, on its line and of its kind. -/
theorem map_header_sectionsFrom (n : Nat) (ls : List Text) :
    (sectionsFrom n ls).map (fun s => (s.line, s.visibility)) =
      (ls.zipIdx n).filterMap fun p => (Visibility.ofLine? p.1).map (p.2, ·) := by
  induction ls generalizing n with
  | nil => rfl
  | cons raw rest ih =>
    rw [List.zipIdx_cons, List.filterMap_cons]
    cases h : Visibility.ofLine? raw with
    | some v => rw [sectionsFrom_cons_header h, List.map_cons, ih, Option.map_some]
    | none =>
      rw [sectionsFrom_cons_of_not_isHeader (by simp [Line.isHeader, h]), ih, Option.map_none]

/-- There is a block for each header, on its line and of its kind. -/
theorem map_header_blocks (filter : Text) :
    (blocks filter).map (fun b => (b.line, b.visibility)) =
      (Text.numberedLines filter).filterMap fun p => (Visibility.ofLine? p.1).map (p.2, ·) := by
  rw [Text.numberedLines, ← map_header_sectionsFrom, blocks_eq, List.map_map]
  rfl

/-- The line of a block is its header. -/
theorem exists_header {filter : Text} {b : Block} (hb : b ∈ blocks filter) :
    ∃ raw, (raw, b.line) ∈ Text.numberedLines filter ∧ Text.trim raw = b.visibility.keyword := by
  have hmem : (b.line, b.visibility) ∈ (blocks filter).map fun b => (b.line, b.visibility) :=
    List.mem_map.2 ⟨b, hb, rfl⟩
  rw [map_header_blocks] at hmem
  obtain ⟨⟨raw, n⟩, hraw, hheader⟩ := List.mem_filterMap.1 hmem
  obtain ⟨v, hv, heq⟩ := Option.map_eq_some_iff.1 hheader
  obtain ⟨rfl, rfl⟩ := Prod.mk.inj heq
  exact ⟨raw, hraw, Visibility.ofLine?_eq_some_iff.1 hv⟩

/-- No two blocks begin on one line. -/
theorem eq_of_line_eq {filter : Text} {b b' : Block} (hb : b ∈ blocks filter)
    (hb' : b' ∈ blocks filter) (h : b.line = b'.line) : b = b' := by
  have hlines : ((blocks filter).map Block.line).Nodup :=
    List.pairwise_map.2 ((pairwise_blocks filter).imp fun h => Nat.ne_of_lt h)
  exact List.inj_on_of_nodup_map hlines hb hb' h

/-- The lines of a section are those behind the line with its number. -/
theorem body_block {filter : Text} {s : Section} (h : s ∈ sections filter) :
    body filter s.block = s.body := by
  obtain ⟨-, -, hbody⟩ := of_mem_sectionsFrom (n := 0) h
  rw [hbody]
  rfl

/-- Each block comes from a section, and its lines are the lines of the section. -/
theorem exists_section {filter : Text} {b : Block} (h : b ∈ blocks filter) :
    ∃ s ∈ sections filter, s.block = b ∧ s.body = body filter b := by
  rw [blocks_eq] at h
  obtain ⟨s, hs, rfl⟩ := List.mem_map.1 h
  exact ⟨s, hs, rfl, (body_block hs).symm⟩

/-- The lines of a block are lines of the filter, and none of them is a header. -/
theorem of_mem_body {filter : Text} {b : Block} {raw : Text} (h : raw ∈ body filter b) :
    raw ∈ Text.lines filter ∧ Line.isHeader raw = false := by
  refine ⟨List.mem_of_mem_drop ((List.takeWhile_prefix _).subset h), ?_⟩
  simpa using List.all_eq_true.1 List.all_takeWhile raw h

/-- The conditions of a block are those of its lines. -/
theorem conditions_eq {filter : Text} {b : Block} (h : b ∈ blocks filter) :
    b.conditions = (body filter b).filterMap Line.condition? := by
  obtain ⟨s, -, rfl, hbody⟩ := exists_section h
  rw [← hbody, Section.block_conditions]

/-- The style of a block is the default style after the directives of its lines. -/
theorem style_eq {filter : Text} {b : Block} (h : b ∈ blocks filter) :
    b.style = ((body filter b).filterMap Line.directive?).foldl Style.apply .default := by
  obtain ⟨s, -, rfl, hbody⟩ := exists_section h
  rw [← hbody, Section.block_style]

end Filter

end LootFilter
