import LootFilter.Text.Basic

/-!
# Ink

A terminal draws a text in ink if the text stands between two escape sequences: one that switches
the ink on, and one that goes back to the default. Inks are nested, the later one outside.

## Main definitions

* `Ink` — colours and weights of the pen
* `Ink.opening`, `Ink.closing` — the escape sequences
* `Text.inked` — a text in some inks, if inks are wanted at all

## Main results

* `Text.inked_false` — without inks a text stays as it is
-/

namespace LootFilter

/-- A colour or weight of the pen. -/
inductive Ink
  | red | green | yellow
  | bold | dimmed | italic
  /-- Any colour of the letters. -/
  | letters (red green blue : Nat)
  /-- Any colour of the ground behind the letters. -/
  | ground (red green blue : Nat)
  deriving Repr, DecidableEq

/-- The escape sequence with some parameters. -/
def escapeSequence (parameters : List Nat) : Text :=
  '\x1b' :: '[' :: Text.joined ";" (parameters.map Text.ofNat) ++ ['m']

namespace Ink

/-- The parameters that switch an ink on. -/
def onParameters : Ink → List Nat
  | .red => [31]
  | .green => [32]
  | .yellow => [33]
  | .bold => [1]
  | .dimmed => [2]
  | .italic => [3]
  | .letters r g b => [38, 2, r, g, b]
  | .ground r g b => [48, 2, r, g, b]

/-- The parameter that goes back to the default: for colours that of the letters or of the ground,
for weights that of everything. -/
def offParameter : Ink → Nat
  | .red | .green | .yellow | .letters .. => 39
  | .bold | .dimmed | .italic => 0
  | .ground .. => 49

/-- The escape sequence that switches an ink on. -/
def opening (i : Ink) : Text := escapeSequence i.onParameters

/-- The escape sequence that goes back to the default. -/
def closing (i : Ink) : Text := escapeSequence [i.offParameter]

/-- A text in an ink. -/
def around (i : Ink) (t : Text) : Text := i.opening ++ t ++ i.closing

end Ink

/-- A text in some inks, the first inside, if inks are wanted. -/
def Text.inked (wanted : Bool) (inks : List Ink) (t : Text) : Text :=
  if wanted then inks.foldl (fun t ink => ink.around t) t else t

@[simp] theorem Text.inked_false (inks : List Ink) (t : Text) : inked false inks t = t := rfl

theorem Text.inked_true_cons (ink : Ink) (inks : List Ink) (t : Text) :
    inked true (ink :: inks) t = inked true inks (ink.around t) := rfl

end LootFilter
