import LootFilter.Proofs.Filter.Concatenation
import LootFilter.Proofs.Filter.Directives

/-!
# Blocks read section by section

The pass over a filter collects conditions and overwrites styles line by line. A block can be read
from its lines without a pass: its conditions are those of the lines that can be read as conditions,
in order, and each field of its style has the value of the last line that gives it one. The fields
are read independently of one another, and what stands in front of the first header moves the blocks
down and does nothing else.

## Main definitions

* `StyleField.Value`, `Style.get` — the fields of a style as one family
* `Directive.value?` — the value that a directive gives to a field
* `Filter.headers` — the headers of a filter with the numbers of their lines

## Main results

* `Style.get_foldl_apply` — of some directives, the last one for a field counts
* `Filter.blocks_eq_map_shifted` — the lines in front of the first header only count
* `Filter.blocks_sectionwise` — the blocks of a filter, read section by section
-/

namespace LootFilter

/-! ### Fields of a style -/

/-- What a field of a style holds. -/
@[reducible] def StyleField.Value : StyleField → Type
  | .fontSize => Int
  | .textColor | .borderColor | .backgroundColor => Color
  | .beam => Option Beam

/-- The value of a field. -/
def Style.get (s : Style) : (f : StyleField) → f.Value
  | .fontSize => s.fontSize
  | .textColor => s.textColor
  | .borderColor => s.borderColor
  | .backgroundColor => s.backgroundColor
  | .beam => s.beam

/-- The value that a directive gives to a field, if it is about that field. -/
def Directive.value? : Directive → (f : StyleField) → Option f.Value
  | .fontSize size, .fontSize => some size
  | .textColor color, .textColor => some color
  | .borderColor color, .borderColor => some color
  | .backgroundColor color, .backgroundColor => some color
  | .beam color, .beam => some (some color)
  | _, _ => none

theorem Style.get_apply (s : Style) (d : Directive) (f : StyleField) :
    (s.apply d).get f = (d.value? f).getD (s.get f) := by
  cases d <;> cases f <;> rfl

/-- Of some directives, the last one for a field counts. -/
theorem Style.get_foldl_apply (s : Style) (ds : List Directive) (f : StyleField) :
    (ds.foldl apply s).get f = (ds.filterMap (·.value? f)).getLast?.getD (s.get f) := by
  -- the style has to be arbitrary: it is what the directives read so far have made of it
  induction ds generalizing s with
  | nil => rfl
  | cons d ds ih =>
    rw [List.foldl_cons, ih, get_apply, List.filterMap_cons]
    cases d.value? f with
    | none => rfl
    | some v =>
      -- the value stays unless a later directive gives another one
      rw [List.getLast?_cons]
      rfl

/-! ### Lines in front of the first header -/

theorem Block.map_shifted_map_shifted (m n : Nat) (bs : List Block) :
    (bs.map (·.shifted m)).map (·.shifted n) = bs.map (·.shifted (m + n)) := by
  simp [shifted, Nat.add_assoc]

namespace Filter

theorem sectionsFrom_dropWhile (n : Nat) (ls : List Text) :
    sectionsFrom n ls =
      sectionsFrom (n + (ls.takeWhile (!Line.isHeader ·)).length)
        (ls.dropWhile (!Line.isHeader ·)) := by
  induction ls generalizing n with
  | nil => rfl
  | cons raw rest ih =>
    cases h : Line.isHeader raw with
    | true => simp [h]
    | false =>
      rw [sectionsFrom_cons_of_not_isHeader h, ih, List.takeWhile_cons_of_pos (by simpa using h),
        List.dropWhile_cons_of_pos (by simpa using h), List.length_cons]
      congr 1
      omega

/-- The blocks are those of the lines from the first header on, moved down by the lines in front. -/
theorem blocks_eq_map_shifted (filter : Text) :
    blocks filter =
      ((sectionsFrom 1 ((Text.lines filter).dropWhile (!Line.isHeader ·))).map Section.block).map
        (·.shifted (preamble filter).length) := by
  rw [← sectionsFrom_add, blocks_eq, sections, sectionsFrom_dropWhile, preamble]

/-- The headers of a filter with the numbers of their lines. Blanks around the keyword are allowed,
and nothing else. -/
def headers (filter : Text) : List (Nat × Visibility) :=
  (Text.numberedLines filter).filterMap fun p =>
    if Text.trim p.1 = "Show" then some (p.2, .shown)
    else if Text.trim p.1 = "Hide" then some (p.2, .hidden)
    else none

theorem map_header_blocks_eq_headers (filter : Text) :
    (blocks filter).map (fun b => (b.line, b.visibility)) = headers filter := by
  rw [map_header_blocks, headers]
  congr 1
  funext p
  unfold Visibility.ofLine?
  dsimp only
  split_ifs <;> rfl

/-- **Blocks, section by section.** There is one block for each header, on its line and of its kind,
from the top down. The conditions of a block are those of its lines, comments aside, in order, and a
field of its style has the value of the last of its lines that is a directive for the field, or else
the default. No line is a condition and a directive at once, and the lines in front of the first
header have no effect but that they are counted. -/
theorem blocks_sectionwise (filter : Text) :
    (blocks filter).map (fun b => (b.line, b.visibility)) = headers filter ∧
      (blocks filter).Pairwise (·.line < ·.line) ∧
      (∀ b ∈ blocks filter,
        b.conditions =
          (body filter b).filterMap (fun raw => Condition.ofLine? (Text.withoutComment raw)) ∧
        ∀ f, b.style.get f =
          ((body filter b).filterMap fun raw =>
            (Directive.ofLine? (Text.withoutComment raw)).bind
              (·.value? f)).getLast?.getD (Style.default.get f)) ∧
      (∀ line, Condition.ofLine? line = none ∨ Directive.ofLine? line = none) ∧
      ∀ other,
        (Text.lines other).dropWhile (!Line.isHeader ·) =
          (Text.lines filter).dropWhile (!Line.isHeader ·) →
        (blocks other).map (·.shifted (preamble filter).length) =
          (blocks filter).map (·.shifted (preamble other).length) := by
  refine ⟨map_header_blocks_eq_headers filter, pairwise_blocks filter, ?_,
    Line.ofLine?_eq_none_or, ?_⟩
  · intro b hb
    constructor
    · rw [conditions_eq hb]
      exact congrFun (congrArg List.filterMap (funext Line.condition?_eq)) _
    · intro f
      rw [style_eq hb, Style.get_foldl_apply, List.filterMap_filterMap, funext Line.directive?_eq]
  · intro other hother
    -- both are the same blocks, moved down by different numbers of lines
    rw [blocks_eq_map_shifted other, blocks_eq_map_shifted filter, hother,
      Block.map_shifted_map_shifted, Block.map_shifted_map_shifted, Nat.add_comm]

/-- A block with two sizes, below some other lines. -/
def twoSizes (above : Text) : Text := above ++ "Show\n\tSetFontSize 40\n\tSetFontSize 36 # small\n"

/-- Of two sizes in a block the later one counts, and a size in front of the first header does
not. -/
theorem blocks_sectionwise_twoSizes :
    (∀ b ∈ blocks (twoSizes "SetFontSize 18\n"), b.style.get .fontSize = (36 : Int)) ∧
      (Text.lines (twoSizes "# notes\n\n")).dropWhile (!Line.isHeader ·) =
        (Text.lines (twoSizes "SetFontSize 18\n")).dropWhile (!Line.isHeader ·) ∧
      (blocks (twoSizes "# notes\n\n")).map (·.shifted 1) =
        (blocks (twoSizes "SetFontSize 18\n")).map (·.shifted 2) := by
  obtain ⟨-, -, hblocks, -, hother⟩ := blocks_sectionwise (twoSizes "SetFontSize 18\n")
  have hbody : ∀ b ∈ blocks (twoSizes "SetFontSize 18\n"),
      body (twoSizes "SetFontSize 18\n") b =
        [("\tSetFontSize 40" : Text), ("\tSetFontSize 36 # small" : Text)] := by
    decide
  have hsame : (Text.lines (twoSizes "# notes\n\n")).dropWhile (!Line.isHeader ·) =
      (Text.lines (twoSizes "SetFontSize 18\n")).dropWhile (!Line.isHeader ·) := by
    decide
  refine ⟨fun b hb => ?_, hsame, hother _ hsame⟩
  rw [(hblocks b hb).2 .fontSize, hbody b hb]
  decide

end Filter

end LootFilter
