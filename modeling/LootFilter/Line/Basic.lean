import LootFilter.Condition
import LootFilter.Style

/-!
# Lines of a filter

A line is a block header, a condition, a style directive, or something that has no meaning for
the evaluation. Headers are recognised on the line as it stands; everything else is read after the
comment has been cut off.

## Main definitions

* `Text.withoutComment` — a line up to its comment, trimmed
* `Visibility`, `Visibility.ofLine?` — the two headers
* `Line`, `Line.classify` — what a line without its comment stands for
-/

namespace LootFilter

/-- The line up to its first `#`, trimmed. -/
def Text.withoutComment (line : Text) : Text := Text.trim (line.takeWhile (· ≠ '#'))

/-- Whether a block shows or hides what it matches. -/
inductive Visibility
  | shown
  | hidden
  deriving Repr, DecidableEq

namespace Visibility

/-- The header of a block. -/
def keyword : Visibility → Text
  | .shown => "Show"
  | .hidden => "Hide"

/-- The header that a line is: the bare keyword, blanks aside. A comment behind it makes the line
no header. -/
def ofLine? (line : Text) : Option Visibility :=
  let word := Text.trim line
  if word = "Show" then some .shown else if word = "Hide" then some .hidden else none

theorem ofLine?_eq_some_iff {line : Text} {v : Visibility} :
    ofLine? line = some v ↔ Text.trim line = v.keyword := by
  unfold ofLine?
  cases v <;> simp only [keyword] <;> split <;> rename_i h <;> simp_all

end Visibility

/-- What a line without its comment stands for. -/
inductive Line
  /-- A condition. -/
  | condition (c : Condition)
  /-- A style directive. -/
  | directive (d : Directive)
  /-- Anything else, which is passed over. -/
  | other
  deriving Repr, DecidableEq

namespace Line

/-- Whether a line begins like a directive. -/
def looksLikeDirective (line : Text) : Bool :=
  List.isPrefixOf ("Set" : Text) line || List.isPrefixOf ("Play" : Text) line

/-- What a line without its comment stands for. Conditions come first; only a line that begins like
a directive is read as one. -/
def classify (line : Text) : Line :=
  match Condition.ofLine? line with
  | some c => .condition c
  | none =>
    if looksLikeDirective line then
      match Directive.ofLine? line with
      | some d => .directive d
      | none => .other
    else .other

end Line

end LootFilter
