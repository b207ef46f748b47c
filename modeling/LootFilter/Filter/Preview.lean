import LootFilter.Filter.Json
import LootFilter.Item.Json
import LootFilter.Terminal.Cell
import LootFilter.Text.Lines

/-!
# Previews

An item and the verdict on it, as a table for people and as JSON for programs.

## Main definitions

* `Preview` — an item and the verdict on it
* `Preview.table`, `Preview.json` — the two forms
-/

namespace LootFilter

/-- An item and the verdict on it. -/
structure Preview where
  /-- The item. -/
  item : Item
  /-- How it appears. -/
  verdict : Verdict

/-- The preview of an item in a filter. -/
def Filter.preview (filter : Text) (i : Item) : Preview := ⟨i, verdict filter i⟩

namespace Preview

/-- What stands for the name of an item without a base type. -/
def namelessTitle : Text := "(no base type)"

/-- The title of a preview. -/
def title (p : Preview) : Text := if p.item.hasBaseType then p.item.baseType else namelessTitle

/-- How an item appears, in a word. An item that no block matched is shown. -/
def appearance (v : Verdict) : Text := if v.isHidden ∧ v.line.isSome then "Hidden" else "Shown"

/-- Which block decided. -/
def reason (v : Verdict) : Text :=
  match v.line with
  | some n => "block at line " ++ Text.ofNat n
  | none => "no block matched, default style"

/-- The ink of an appearance. -/
def appearanceInk (v : Verdict) : Ink := if v.isHidden then .red else .green

/-- The width of the labels of a style. -/
def labelWidth : Nat := 12

/-- A row of the table with a label. -/
def row (label value : Text) : Text := "  " ++ Text.padRight labelWidth label ++ value

/-- The rows for a style. -/
def styleRows (inks : Bool) (s : Style) : List Text :=
  [row "Font size" (Text.ofInt s.fontSize), row "Text" (s.textColor.cell inks),
    row "Border" (s.borderColor.cell inks), row "Background" (s.backgroundColor.cell inks),
    row "Beam" (Cell.beam inks s.beam)]

/-- The preview as a table. -/
def table (inks : Bool) (p : Preview) : Text :=
  Text.unlines
    ([Text.inked inks [.bold] p.title ++ ": " ++
        Text.inked inks [appearanceInk p.verdict, .bold] (appearance p.verdict),
      Text.inked inks [.dimmed] (reason p.verdict),
      []] ++ styleRows inks p.verdict.style)

/-- The preview as JSON. -/
def json (p : Preview) : Text :=
  Json.pretty (.object [("item", p.item.toJson), ("result", p.verdict.toJson)])

end Preview

end LootFilter
