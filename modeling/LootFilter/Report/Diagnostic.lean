import LootFilter.Line.Basic

/-!
# Diagnostics

What a check of a filter can find, and how it is told. Errors make a filter invalid; warnings do
not, unless a check is strict.

## Main definitions

* `Problem` — the findings, by cause
* `Problem.severity`, `Problem.message` — how grave a finding is, and its wording
* `Diagnostic` — a finding with the number of its line
* `Report` — the findings on a filter, with `Report.isValid` and `Report.passes`
-/

namespace LootFilter

/-- How grave a finding is. -/
inductive Severity
  | error
  | warning
  deriving Repr, DecidableEq

namespace Severity

/-- The label of a severity. -/
def label : Severity → Text
  | .error => "error"
  | .warning => "warning"

end Severity

/-- The directives that set a colour. -/
inductive ColorDirective
  | textColor | borderColor | backgroundColor
  deriving Repr, DecidableEq

namespace ColorDirective

/-- The keyword of a directive that sets a colour. -/
def keyword : ColorDirective → Text
  | .textColor => "SetTextColor"
  | .borderColor => "SetBorderColor"
  | .backgroundColor => "SetBackgroundColor"

/-- The directive that a word names. -/
def ofKeyword? (word : Text) : Option ColorDirective :=
  [textColor, borderColor, backgroundColor].find? fun d => d.keyword == word

end ColorDirective

/-- The smallest font size that can be drawn. -/
def minFontSize : Int := 18

/-- The largest font size that can be drawn. -/
def maxFontSize : Int := 45

/-- A finding on a line of a filter. -/
inductive Problem
  /-- The line stands in front of the first block. -/
  | outsideBlock
  /-- The block that ends here has no conditions. -/
  | previousBlockEmpty
  /-- The last block has no conditions. -/
  | finalBlockEmpty
  /-- A comment behind the keyword keeps the line from being a header. -/
  | headerWithComment (v : Visibility)
  /-- The operator or the value of a numeric condition is missing. -/
  | incompleteCondition (p : NumberProperty)
  /-- The operator of a numeric condition is none. -/
  | invalidOperator (word : Text) (p : NumberProperty)
  /-- The value of a numeric condition is negative. -/
  | negativeValue (p : NumberProperty)
  /-- The value of a numeric condition is not a number. -/
  | notANumber (word : Text) (p : NumberProperty)
  /-- A numeric condition has more than one value. -/
  | extraValue (p : NumberProperty)
  /-- A colour has too few or too many channels. -/
  | channelCount (d : ColorDirective)
  /-- A channel is not a number from 0 to 255. -/
  | invalidChannel (word : Text) (d : ColorDirective)
  /-- The font size is missing, not a number, or out of range. -/
  | fontSizeOutOfRange
  /-- Several words without quotes, which count as alternatives. -/
  | unquotedWords (p : TextProperty)
  /-- The colour of a beam is missing. -/
  | missingBeam
  /-- The colour of a beam is not in the palette; a similar one may be. -/
  | unknownBeam (word : Text) (suggestion : Option Beam)
  deriving Repr, DecidableEq

namespace Problem

/-- How grave a finding is. -/
def severity : Problem → Severity
  | .headerWithComment _ | .unquotedWords _ => .warning
  | _ => .error

/-- The wording of a finding. -/
def message : Problem → Text
  | .outsideBlock => "Line must be inside Show/Hide block"
  | .previousBlockEmpty => "Previous block has no conditions"
  | .finalBlockEmpty => "Final block has no conditions"
  | .headerWithComment v =>
    v.keyword ++
      " followed by a comment does not start a block; put the comment on its own line"
  | .incompleteCondition p => p.keyword ++ " requires an operator and a value"
  | .invalidOperator word p => "Invalid operator '" ++ word ++ "' for " ++ p.keyword
  | .negativeValue p => p.keyword ++ " value must not be negative"
  | .notANumber word p => p.keyword ++ " value must be a number, got '" ++ word ++ "'"
  | .extraValue p => p.keyword ++ " takes a single value"
  | .channelCount d => d.keyword ++ " requires 3 or 4 values (R G B [A])"
  | .invalidChannel word d =>
    "Invalid color value '" ++ word ++ "' in " ++ d.keyword ++ " (must be 0-255)"
  | .fontSizeOutOfRange =>
    "Font size must be between " ++ Text.ofInt minFontSize ++ " and " ++ Text.ofInt maxFontSize
  | .unquotedWords p => "Multiple values should be in quotes (" ++ p.keyword ++ ")"
  | .missingBeam => "PlayEffect requires a color"
  | .unknownBeam word none => "Invalid effect color '" ++ word ++ "'"
  | .unknownBeam word (some b) =>
    "Invalid effect color '" ++ word ++ "' (did you mean '" ++ b.name ++ "'?)"

end Problem

/-- A finding with the number of its line. -/
structure Diagnostic where
  /-- The number of the line. -/
  line : Nat
  /-- The finding. -/
  problem : Problem
  deriving Repr, DecidableEq

namespace Diagnostic

/-- Whether a finding is an error. -/
def isError (d : Diagnostic) : Bool := d.problem.severity == .error

/-- A finding on a line of its own. -/
def display (d : Diagnostic) : Text :=
  "line " ++ Text.ofNat d.line ++ ": " ++ d.problem.severity.label ++ ": " ++ d.problem.message

end Diagnostic

/-- The findings on a filter. -/
structure Report where
  /-- The findings, in the order of their lines. -/
  diagnostics : List Diagnostic
  deriving Repr, DecidableEq

namespace Report

/-- The number of errors. -/
def errorCount (r : Report) : Nat := (r.diagnostics.filter (·.isError)).length

/-- The number of warnings. -/
def warningCount (r : Report) : Nat := (r.diagnostics.filter (!·.isError)).length

/-- Whether there are no errors. -/
def isValid (r : Report) : Bool := !r.diagnostics.any (·.isError)

/-- Whether there are no findings at all. -/
def isClean (r : Report) : Bool := r.diagnostics.isEmpty

/-- Whether a filter passes a check, which may be strict: then warnings count as errors. -/
def passes (r : Report) (strict : Bool) : Bool := if strict then r.isClean else r.isValid

theorem isValid_iff {r : Report} : r.isValid = true ↔ r.errorCount = 0 := by
  simp [isValid, errorCount, List.filter_eq_nil_iff]

theorem errorCount_add_warningCount (r : Report) :
    r.errorCount + r.warningCount = r.diagnostics.length := by
  simp only [errorCount, warningCount, ← List.countP_eq_length_filter]
  have := List.length_eq_countP_add_countP (l := r.diagnostics) (·.isError)
  simp_all

end Report

end LootFilter
