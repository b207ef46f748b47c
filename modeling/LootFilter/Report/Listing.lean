import LootFilter.Json.Basic
import LootFilter.Report.Diagnostic
import LootFilter.Terminal.Cell
import LootFilter.Text.Lines

/-!
# Listings of reports

The report on a filter as lines of the form `file:line: severity: message` with a summary, and as
JSON for programs.

## Main definitions

* `Report.table` — the report as lines
* `Report.json` — the report as JSON
-/

namespace LootFilter

/-- A finding in JSON. -/
def Diagnostic.toJson (d : Diagnostic) : Json :=
  .object [("line", .ofNat d.line), ("message", .string d.problem.message),
    ("severity", .string d.problem.severity.label)]

namespace Report

/-- The line for a finding. -/
def diagnosticLine (inks : Bool) (file : Text) (d : Diagnostic) : Text :=
  Text.inked inks [.bold] (file ++ ':' :: Text.ofNat d.line) ++ ": " ++
    d.problem.severity.cell inks ++ ": " ++ d.problem.message

/-- A number of things. -/
def counted (n : Nat) (one many : Text) : Text :=
  Text.ofNat n ++ ' ' :: if n = 1 then one else many

/-- The summary of a report. -/
def summary (r : Report) : Text :=
  if r.isClean then "Filter is valid"
  else counted r.errorCount "error" "errors" ++ ", " ++
    counted r.warningCount "warning" "warnings"

/-- The ink of a summary. -/
def summaryInk (r : Report) (strict : Bool) : Ink := if r.passes strict then .green else .red

/-- The report as lines, with an empty line in front of the summary if there are findings. -/
def table (inks : Bool) (file : Text) (strict : Bool) (r : Report) : Text :=
  Text.unlines
    (r.diagnostics.map (diagnosticLine inks file) ++ (if r.isClean then [] else [[]]) ++
      [Text.inked inks [r.summaryInk strict] r.summary])

/-- The report as a JSON value. -/
def toJson (file : Text) (strict : Bool) (r : Report) : Json :=
  .object [("file", .string file), ("isValid", .bool (r.passes strict)), ("strict", .bool strict),
    ("errorCount", .ofNat r.errorCount), ("warningCount", .ofNat r.warningCount),
    ("errors", .array (r.diagnostics.map Diagnostic.toJson))]

/-- The report as JSON. -/
def json (file : Text) (strict : Bool) (r : Report) : Text := Json.pretty (toJson file strict r)

end Report

end LootFilter
