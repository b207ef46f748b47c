import LootFilter.Beam
import LootFilter.Number.Literal
import LootFilter.Number.Shortest
import LootFilter.Text.Lowercase
import LootFilter.Text.Words

/-!
# Styles

A style says how the label of an item is drawn: font size, three colours and a beam. A directive
is a line that sets one of the five; what it sets replaces what was set before. Reading directives
is lenient: any integer is taken as it is, and a line that is not understood sets nothing.

## Main definitions

* `Color`, `Color.css` — a colour, and its notation in style sheets
* `Style`, `Style.default` — a style, and the look of an item that no rule touched
* `Directive`, `Directive.ofLine?` — the directives, and the directive that a line stands for
* `Style.apply` — a style after a directive

## Main results

* `Style.apply_apply_of_sameTarget` — of two directives for one field the later one counts
* `Style.apply_comm` — directives for different fields can change places
-/

namespace LootFilter

/-- A colour with its channels as they were written, also beyond 0 to 255. Opaque colours have no
alpha. -/
structure Color where
  /-- The red channel. -/
  red : Int
  /-- The green channel. -/
  green : Int
  /-- The blue channel. -/
  blue : Int
  /-- The alpha channel of a colour that is not opaque. -/
  alpha : Option Int
  deriving Repr, DecidableEq

namespace Color

/-- The alpha that means opaque. -/
def opaqueAlpha : Nat := 255

/-- An opaque colour. -/
def rgb (red green blue : Int) : Color := ⟨red, green, blue, none⟩

/-- A colour with alpha; the alpha 255 is the same as none. -/
def rgba (red green blue alpha : Int) : Color :=
  ⟨red, green, blue, if alpha = opaqueAlpha then none else some alpha⟩

/-- The colour with the given channels: three or four integer literals. -/
def ofChannels? (channels : List Text) : Option Color :=
  match channels.mapM Literal.integer? with
  | some [r, g, b] => some (rgb r g b)
  | some [r, g, b, a] => some (rgba r g b a)
  | _ => none

/-- A colour in the notation of style sheets. The alpha is scaled to the range from 0 to 1. -/
def css (c : Color) : Text :=
  let channels := Text.joined ", " [Text.ofInt c.red, Text.ofInt c.green, Text.ofInt c.blue]
  match c.alpha with
  | none => "rgb(" ++ channels ++ ")"
  | some a => "rgba(" ++ channels ++ ", " ++ quotientText a opaqueAlpha ++ ")"

end Color

/-- How the label of an item is drawn. -/
structure Style where
  /-- The size of the font. -/
  fontSize : Int
  /-- The colour of the text. -/
  textColor : Color
  /-- The colour of the border. -/
  borderColor : Color
  /-- The colour of the background. -/
  backgroundColor : Color
  /-- The beam, if there is one. -/
  beam : Option Beam
  deriving Repr, DecidableEq

/-- A field of a style. -/
inductive StyleField
  | fontSize | textColor | borderColor | backgroundColor | beam
  deriving Repr, DecidableEq

/-- A line that sets one field of a style. -/
inductive Directive
  /-- `SetFontSize n` -/
  | fontSize (size : Int)
  /-- `SetTextColor r g b [a]` -/
  | textColor (color : Color)
  /-- `SetBorderColor r g b [a]` -/
  | borderColor (color : Color)
  /-- `SetBackgroundColor r g b [a]` -/
  | backgroundColor (color : Color)
  /-- `PlayEffect name` -/
  | beam (color : Beam)
  deriving Repr, DecidableEq

namespace Style

/-- The look of an item that no rule touched. -/
protected def default : Style where
  fontSize := 32
  textColor := .rgb 158 155 138
  borderColor := .rgb 0 0 0
  backgroundColor := .rgb 0 0 0
  beam := none

/-- The style after a directive. -/
def apply (s : Style) : Directive → Style
  | .fontSize size => { s with fontSize := size }
  | .textColor color => { s with textColor := color }
  | .borderColor color => { s with borderColor := color }
  | .backgroundColor color => { s with backgroundColor := color }
  | .beam color => { s with beam := some color }

end Style

namespace Directive

/-- The field that a directive sets. -/
def target : Directive → StyleField
  | .fontSize _ => .fontSize
  | .textColor _ => .textColor
  | .borderColor _ => .borderColor
  | .backgroundColor _ => .backgroundColor
  | .beam _ => .beam

/-- The beam that the arguments of `PlayEffect` ask for: white if the name is missing or not in
the palette. A temporary beam only flashes when the item drops and sets nothing. -/
def beamOfArguments? : List Text → Option Directive
  | [] => some (.beam .white)
  | name :: flags =>
    if flags.head?.any (Text.sameIgnoringAsciiCase "temp") then none
    else some (.beam ((Beam.ofName? name).getD .white))

/-- The directive that a keyword and its arguments stand for. -/
def ofWords? (keyword : Text) (arguments : List Text) : Option Directive :=
  if keyword = "SetFontSize" then (arguments.head?.bind Literal.integer?).map .fontSize
  else if keyword = "SetTextColor" then (Color.ofChannels? arguments).map .textColor
  else if keyword = "SetBorderColor" then (Color.ofChannels? arguments).map .borderColor
  else if keyword = "SetBackgroundColor" then (Color.ofChannels? arguments).map .backgroundColor
  else if keyword = "PlayEffect" then beamOfArguments? arguments
  else none

/-- The directive that a line without a comment stands for, if it is one. -/
def ofLine? (line : Text) : Option Directive :=
  match Text.words line with
  | [] => none
  | keyword :: arguments => ofWords? keyword arguments

end Directive

namespace Style

/-- Of two directives for one field the later one counts. -/
theorem apply_apply_of_sameTarget {d e : Directive} (h : d.target = e.target) (s : Style) :
    (s.apply d).apply e = s.apply e := by
  cases d <;> cases e <;> simp_all [Directive.target, apply]

/-- Directives for different fields can change places. -/
theorem apply_comm {d e : Directive} (h : d.target ≠ e.target) (s : Style) :
    (s.apply d).apply e = (s.apply e).apply d := by
  cases d <;> cases e <;> simp_all [Directive.target, apply]

end Style

end LootFilter
