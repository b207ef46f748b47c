import LootFilter.Line.Basic
import LootFilter.Report.Diagnostic
import LootFilter.Terminal.Ink

/-!
# Cells

The parts from which printed tables are made: shortened texts, colours, beams and labels. Each can
be drawn in ink; the ink adds nothing to read, apart from the swatch in front of a colour.

## Main definitions

* `Text.shortened` — a text of limited length
* `Color.cell`, `Cell.beam`, `Severity.cell`, `Visibility.cell` — values as they are printed

## Main results

* `Text.shortened_eq_self`, `Text.shortened_of_lt` — short texts stay, long ones end in dots
-/

namespace LootFilter

/-- The dots at the end of a shortened text. -/
def Text.ellipsis : Text := "..."

/-- A text that, if it is longer than the limit, is cut to make room for the dots. Below a limit of
three only the dots remain. -/
def Text.shortened (limit : Nat) (t : Text) : Text :=
  if limit < t.length then t.take (limit - ellipsis.length) ++ ellipsis else t

theorem Text.shortened_eq_self {limit : Nat} {t : Text} (h : t.length ≤ limit) :
    shortened limit t = t := by
  simp [shortened, Nat.not_lt.2 h]

theorem Text.shortened_of_lt {limit : Nat} {t : Text} (h : limit < t.length) :
    shortened limit t = t.take (limit - ellipsis.length) ++ ellipsis := by
  simp [shortened, h]

/-- A channel moved into the range that can be drawn. -/
def Color.drawnChannel (n : Int) : Nat := if 255 ≤ n then 255 else n.toNat

/-- A colour in the notation of style sheets, behind a swatch of it if inks are wanted. -/
def Color.cell (inks : Bool) (c : Color) : Text :=
  if inks then
    Text.inked true
      [.ground (drawnChannel c.red) (drawnChannel c.green) (drawnChannel c.blue)] "  " ++
      ' ' :: c.css
  else c.css

/-- A beam by name and colour, or the word for no beam. -/
def Cell.beam (inks : Bool) : Option Beam → Text
  | none => "none"
  | some b =>
    let (red, green, blue) := b.channels
    Text.inked inks [.letters red green blue] (b.name ++ " (" ++ b.hex ++ ")")

/-- The inks of a severity. -/
def Severity.inks : Severity → List Ink
  | .error => [.red, .bold]
  | .warning => [.yellow]

/-- The label of a severity. -/
def Severity.cell (inks : Bool) (s : Severity) : Text := Text.inked inks s.inks s.label

/-- The inks of a block header. -/
def Visibility.inks : Visibility → List Ink
  | .shown => [.green]
  | .hidden => [.dimmed]

/-- The header of a block. -/
def Visibility.cell (inks : Bool) (v : Visibility) : Text := Text.inked inks v.inks v.keyword

end LootFilter
