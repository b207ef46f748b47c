import LootFilter.Line.Basic
import LootFilter.Text.Lines

/-!
# Blocks

A filter is read as a list of blocks. A block begins at its header and ends before the next one;
its conditions and directives are collected line by line. Lines in front of the first header belong
to no block.

## Main definitions

* `Block` — a block with its conditions and its style
* `Block.add` — a block after one more line
* `Filter.blocks` — the blocks of a filter, in order
-/

namespace LootFilter

/-- A block of a filter. Without conditions it matches every item. -/
structure Block where
  /-- The number of the line with the header. -/
  line : Nat
  /-- Whether matching items are shown or hidden. -/
  visibility : Visibility
  /-- The conditions, all of which have to hold. -/
  conditions : List Condition := []
  /-- The style of matching items. -/
  style : Style := .default
  deriving Repr, DecidableEq

namespace Block

/-- Whether a block has no conditions. -/
def isCatchAll (b : Block) : Bool := b.conditions.isEmpty

/-- Whether a block hides what it matches. -/
def isHide (b : Block) : Bool := b.visibility == .hidden

/-- The block after one more line. -/
def add (b : Block) : Line → Block
  | .condition c => { b with conditions := b.conditions ++ [c] }
  | .directive d => { b with style := b.style.apply d }
  | .other => b

end Block

namespace Filter

/-- One line of the pass over a filter. The state holds the blocks, the latest first. -/
def step (blocks : List Block) (numbered : Text × Nat) : List Block :=
  match Visibility.ofLine? numbered.1 with
  | some v => { line := numbered.2, visibility := v } :: blocks
  | none =>
    match blocks with
    | [] => []
    | b :: earlier => b.add (Line.classify (Text.withoutComment numbered.1)) :: earlier

/-- The blocks of a filter, in order. -/
def blocks (filter : Text) : List Block := ((Text.numberedLines filter).foldl step []).reverse

end Filter

end LootFilter
