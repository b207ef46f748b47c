import LootFilter.Filter.Json
import LootFilter.Terminal.Cell
import LootFilter.Text.Lines

/-!
# Listings of blocks

The blocks of a filter as a table for people and as JSON for programs. The table names, for each
block, its line and header, its conditions, and what its style changes.

## Main definitions

* `Listing.table` — the blocks as a table
* `Listing.json` — the blocks as JSON
-/

namespace LootFilter.Listing

/-- The indentation of the lines below a header. -/
def indentation : Text := List.replicate 8 ' '

/-- The width of the line numbers. -/
def numberWidth : Nat := 5

/-- The limit for the length of a condition. -/
def conditionLimit : Nat := 60

/-- The line for the header of a block. -/
def headerLine (inks : Bool) (b : Block) : Text :=
  Text.inked inks [.dimmed] (Text.padLeft numberWidth (Text.ofNat b.line)) ++
    ' ' :: b.visibility.cell inks

/-- The lines for the conditions of a block; a block without conditions has a note instead. -/
def conditionLines (inks : Bool) (b : Block) : List Text :=
  if b.isCatchAll then [indentation ++ Text.inked inks [.italic] "(matches every item)"]
  else b.conditions.map fun c => indentation ++ Text.shortened conditionLimit c.display

/-- A line for a colour of a style, if it differs from the default. -/
def colorLine (inks : Bool) (label : Text) (color default : Color) : List Text :=
  if color = default then []
  else [indentation ++ "-> " ++ label ++ ' ' :: color.cell inks]

/-- The lines for what a style changes. -/
def styleLines (inks : Bool) (s : Style) : List Text :=
  (if s.fontSize = Style.default.fontSize then []
    else [indentation ++ "-> font size " ++ Text.ofInt s.fontSize]) ++
  colorLine inks "text" s.textColor Style.default.textColor ++
  colorLine inks "border" s.borderColor Style.default.borderColor ++
  colorLine inks "background" s.backgroundColor Style.default.backgroundColor ++
  if s.beam.isNone then [] else [indentation ++ "-> beam " ++ Cell.beam inks s.beam]

/-- The lines for a block. -/
def blockLines (inks : Bool) (b : Block) : List Text :=
  headerLine inks b :: conditionLines inks b ++ styleLines inks b.style

/-- The blocks of a filter as a table. -/
def table (inks : Bool) (blocks : List Block) : Text :=
  Text.unlines
    (if blocks.isEmpty then ["No blocks found."] else blocks.flatMap (blockLines inks))

/-- The blocks of a filter as JSON. -/
def json (blocks : List Block) : Text :=
  Json.pretty (.object [("blocks", .array (blocks.map Block.toJson))])

end LootFilter.Listing
