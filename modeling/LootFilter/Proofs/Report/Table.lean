import LootFilter.Proofs.Json.Pretty
import LootFilter.Proofs.Program.Failing
import LootFilter.Proofs.Report.Wording

/-!
# The report as lines

Without inks, the report on a filter is a protocol that other programs can read line by line. It has
a line `file:line: severity: message` for each finding, in their order, then an empty line if there
is any finding, and at last a summary. Messages quote words of the filter, but a word breaks no
line. So the lines of findings are told from the other lines, and they can be counted. The counts
are those of the summary, and they decide whether the filter passes.

## Main definitions

* `Report.tells` — whether a line tells a finding of some severity
* `Report.PassesByLines` — what the lines of a report say about a filter

## Main results

* `Report.lines_table` — the lines of a report
* `Report.countP_tells_lines_table` — how many of its lines tell a finding of some severity
* `Report.passes_iff_passesByLines` — a filter passes if its lines say so
* `Filter.lines_table_and_passes` — the report on a filter, and whether the filter passes
-/

namespace LootFilter

namespace Report

/-- Whether a line tells a finding of a severity about a file: the name of the file and a number
with a colon behind each of them, and then the label of the severity with another colon. -/
def tells (file : Text) (s : Severity) (line : Text) : Bool :=
  let rest := line.drop (file.length + 1)
  List.isPrefixOf (file ++ [':']) line && !(rest.takeWhile (·.isDigit)).isEmpty &&
    List.isPrefixOf (": " ++ s.label ++ ": " : Text) (rest.dropWhile (·.isDigit))

/-- What the lines of a report say about a filter. It passes if no line tells an error; in a strict
check it passes if no line tells a finding at all. -/
def PassesByLines (file : Text) (strict : Bool) (lines : List Text) : Prop :=
  if strict then ∀ line ∈ lines, ∀ s, tells file s line = false
  else ∀ line ∈ lines, tells file .error line = false

/-- Whether no message of a report breaks a line. -/
def IsLinewise (r : Report) : Prop :=
  ∀ d ∈ r.diagnostics, '\n' ∉ d.problem.message ∧ '\r' ∉ d.problem.message

variable {r : Report} {file line : Text} {strict : Bool} {s : Severity} {d : Diagnostic}

/-! ### The lines of a report -/

theorem diagnosticLine_false (file : Text) (d : Diagnostic) :
    diagnosticLine false file d =
      file ++ ':' :: Text.ofNat d.line ++ ": " ++ d.problem.severity.label ++ ": " ++
        d.problem.message :=
  rfl

theorem newline_not_mem_diagnosticLine (hfile : '\n' ∉ file) (hmessage : '\n' ∉ d.problem.message) :
    '\n' ∉ diagnosticLine false file d := by
  have hnumber : '\n' ∉ Text.ofNat d.line := (Text.isPrintable_ofNat _).not_mem (by decide)
  have hlabel : '\n' ∉ d.problem.severity.label :=
    (Severity.isPrintable_label _).not_mem (by decide)
  simp [diagnosticLine_false, hfile, hnumber, hlabel, hmessage]

/-- The last character of a text is none that is missing in its last part. -/
theorem getLast?_append_ne {c : Char} {s t : Text} (hne : t ≠ []) (h : c ∉ t) :
    (s ++ t).getLast? ≠ some c := by
  rw [List.getLast?_append_of_ne_nil _ hne]
  intro hlast
  exact h (List.mem_of_getLast? hlast)

theorem getLast?_diagnosticLine_ne (hmessage : '\r' ∉ d.problem.message) :
    (diagnosticLine false file d).getLast? ≠ some '\r' := by
  rw [diagnosticLine_false, List.append_assoc]
  exact getLast?_append_ne (by simp) (by simp [hmessage])

/-- A summary is made of digits and fixed words. -/
theorem not_mem_summary {c : Char} (hdigit : c.isDigit = false)
    (hletters : c ∉ ("Filter is valid, errors, warnings" : Text)) : c ∉ r.summary := by
  have hnumber (n : Nat) : c ∉ Text.ofNat n := by
    intro hc
    rw [Text.isDigit_of_mem_ofNat hc] at hdigit
    exact Bool.noConfusion hdigit
  rw [summary, counted, counted]
  split
  · simp_all
  · split <;> split <;> simp_all

/-- The lines of a report: one for each finding, an empty one if there are findings, and the
summary. -/
theorem lines_table (h : r.IsLinewise) (hfile : '\n' ∉ file) (strict : Bool) :
    Text.lines (r.table false file strict) =
      r.diagnostics.map (diagnosticLine false file) ++ (if r.isClean then [] else [[]]) ++
        [r.summary] := by
  apply Text.lines_unlines
  intro l hl
  rw [List.mem_append, List.mem_append] at hl
  rcases hl with (hl | hl) | hl
  · obtain ⟨d, hd, rfl⟩ := List.mem_map.mp hl
    obtain ⟨hnewline, hreturn⟩ := h d hd
    exact ⟨newline_not_mem_diagnosticLine hfile hnewline, getLast?_diagnosticLine_ne hreturn⟩
  · split at hl
    · exact absurd hl List.not_mem_nil
    · obtain rfl := List.mem_singleton.mp hl
      simp
  -- the summary is made of fixed words and numbers
  · obtain rfl := List.mem_singleton.mp hl
    rw [Text.inked_false]
    refine ⟨not_mem_summary (by decide) (by decide), fun hlast => ?_⟩
    exact not_mem_summary (by decide) (by decide) (List.mem_of_getLast? hlast)

/-! ### Reading the lines -/

/-- No label of a severity begins with the label of the other one. -/
theorem isPrefixOf_label (s s' : Severity) (message : Text) :
    List.isPrefixOf (": " ++ s.label ++ ": " : Text) (": " ++ s'.label ++ ": " ++ message) =
      (s' == s) := by
  cases s <;> cases s' <;> rfl

/-- The line of a finding tells its severity and no other. -/
theorem tells_diagnosticLine (file : Text) (s : Severity) (d : Diagnostic) :
    tells file s (diagnosticLine false file d) = (d.problem.severity == s) := by
  -- what follows the number begins with a colon, so the number is read to its end
  have hstops : Json.Stops (": " ++ d.problem.severity.label ++ ": " ++ d.problem.message) :=
    Json.stops_cons (by decide) _
  have hline : diagnosticLine false file d = (file ++ [':']) ++ (Text.ofNat d.line ++
      (": " ++ d.problem.severity.label ++ ": " ++ d.problem.message)) := by
    simp [diagnosticLine_false]
  have hstart : List.isPrefixOf (file ++ [':']) (diagnosticLine false file d) = true := by
    rw [hline, List.isPrefixOf_iff_prefix]
    exact List.prefix_append _ _
  have hdrop : (diagnosticLine false file d).drop (file.length + 1) =
      Text.ofNat d.line ++ (": " ++ d.problem.severity.label ++ ": " ++ d.problem.message) := by
    rw [hline]
    exact List.drop_left' (by simp)
  have hdigits : (Text.ofNat d.line).isEmpty = false := by
    simpa using Text.ofNat_ne_nil d.line
  simp only [tells, hdrop, hstart, Json.takeWhile_ofNat_append _ hstops,
    Json.dropWhile_ofNat_append _ hstops, hdigits, isPrefixOf_label, Bool.not_false, Bool.true_and]

/-- A line without a colon tells no finding. -/
theorem tells_eq_false_of_not_mem (h : ':' ∉ line) : tells file s line = false := by
  have hstart : List.isPrefixOf (file ++ [':']) line = false := by
    rw [Bool.eq_false_iff, ne_eq, List.isPrefixOf_iff_prefix]
    intro hstart
    exact h (hstart.subset (by simp))
  simp only [tells, hstart, Bool.false_and]

theorem isClean_iff : r.isClean = true ↔ r.diagnostics = [] := by
  rw [isClean, List.isEmpty_iff]

/-- The summary of a report with findings begins with a number. -/
theorem summary_eq_valid_iff : r.summary = "Filter is valid" ↔ r.diagnostics = [] := by
  rw [← isClean_iff, summary]
  split
  · next hclean => simp only [hclean]
  · next hclean =>
    refine ⟨fun heq => ?_, fun h => absurd h hclean⟩
    obtain ⟨c, t, hc, hdigit⟩ := Json.exists_ofNat_eq_cons r.errorCount
    rw [counted, hc] at heq
    obtain ⟨rfl, -⟩ := List.cons.inj heq
    exact absurd hdigit (by decide)

/-- The lines of a report tell as many findings of a severity as there are. -/
theorem countP_tells_lines_table (h : r.IsLinewise) (hfile : '\n' ∉ file) (strict : Bool)
    (s : Severity) :
    (Text.lines (r.table false file strict)).countP (tells file s) =
      r.diagnostics.countP (·.problem.severity == s) := by
  have hempty : ((if r.isClean then [] else [[]]) : List Text).countP (tells file s) = 0 := by
    rw [List.countP_eq_zero]
    intro l hl
    split at hl
    · exact absurd hl List.not_mem_nil
    · obtain rfl := List.mem_singleton.mp hl
      simp [tells_eq_false_of_not_mem]
  have hsummary : [r.summary].countP (tells file s) = 0 := by
    simp [tells_eq_false_of_not_mem (not_mem_summary (r := r) (by decide) (by decide))]
  rw [lines_table h hfile, List.countP_append, List.countP_append, hempty, hsummary,
    List.countP_map]
  exact List.countP_congr fun d _ => by simp [tells_diagnosticLine]

theorem countP_error (r : Report) :
    r.diagnostics.countP (·.problem.severity == .error) = r.errorCount :=
  List.countP_eq_length_filter

theorem countP_warning (r : Report) :
    r.diagnostics.countP (·.problem.severity == .warning) = r.warningCount := by
  have hnot (d : Diagnostic) : (d.problem.severity == .warning) = !d.isError := by
    rw [Diagnostic.isError]
    cases d.problem.severity <;> rfl
  simp only [hnot]
  exact List.countP_eq_length_filter

/-- A filter passes if the lines of its report say so. -/
theorem passes_iff_passesByLines (h : r.IsLinewise) (hfile : '\n' ∉ file) (strict : Bool) :
    r.passes strict = true ↔
      PassesByLines file strict (Text.lines (r.table false file strict)) := by
  -- no line tells a severity if there is no finding of it
  have hnone (s : Severity) : (∀ line ∈ Text.lines (r.table false file strict),
      tells file s line = false) ↔ ∀ d ∈ r.diagnostics, d.problem.severity ≠ s := by
    simpa [List.countP_eq_zero] using
      congrArg (· = 0) (countP_tells_lines_table h hfile strict s)
  rw [passes, PassesByLines]
  split
  -- a finding has some severity, which its line tells
  · rw [isClean, List.isEmpty_iff, List.eq_nil_iff_forall_not_mem]
    constructor
    · intro hclean line hline s
      exact (hnone s).mpr (fun d hd => absurd hd (hclean d)) line hline
    · intro hlines d hd
      exact (hnone d.problem.severity).mp (fun line hline => hlines line hline _) d hd rfl
  · rw [hnone, isValid]
    simp [Diagnostic.isError]

end Report

namespace Surroundings

variable {s : Surroundings} {flags : Flags} {path text : Text} {asked strict : Bool}

/-- The run of a check succeeds if the filter passes. -/
theorem exitStatus_run_validate (hstrict : s.isStrict asked = .ok strict)
    (htext : s.readFilter path = .ok text) :
    (s.run ⟨flags, some (.validate path asked)⟩).exitStatus = 0 ↔
      (Filter.check text).passes strict = true := by
  have hfailure :=
    (validate_of_readFilter (p := s.presentation ⟨flags, some (.validate path asked)⟩)
      hstrict htext).2
  rw [Outcome.exitStatus_eq_zero_iff, failure_run, runCommand, hfailure]
  split <;> simp_all

end Surroundings

namespace Filter

variable {file : Text} {strict : Bool}

/-- The wording of what a check finds breaks no line of its report. -/
theorem isLinewise_check (filter : Text) : (check filter).IsLinewise := by
  intro d hd
  exact ⟨not_mem_message_of_mem_check hd (by decide) (by decide),
    not_mem_message_of_mem_check hd (by decide) (by decide)⟩

/-- **The report as lines.** The report on a filter is made of lines: one line
`file:line: severity: message` for each finding, an empty one if there are findings, and a summary.
The summary counts the lines that tell errors and those that tell warnings; it says that the filter
is valid if there are no findings. The report passes, its JSON says so, and a run that prints it
succeeds, if and only if no line tells an error, or in a strict check no line tells a finding. -/
theorem lines_table_and_passes (filter file : Text) (strict : Bool) (hfile : '\n' ∉ file) :
    let report := check filter
    let lines := Text.lines (report.table false file strict)
    report.table false file strict = Text.unlines lines ∧
      lines = report.diagnostics.map (fun d => file ++ ':' :: Text.ofNat d.line ++ ": " ++
          d.problem.severity.label ++ ": " ++ d.problem.message) ++
        (if report.diagnostics = [] then [] else [[]]) ++ [report.summary] ∧
      (report.summary = "Filter is valid" ↔ report.diagnostics = []) ∧
      (report.diagnostics ≠ [] → report.summary =
        Report.counted (lines.countP (Report.tells file .error)) "error" "errors" ++ ", " ++
          Report.counted (lines.countP (Report.tells file .warning)) "warning" "warnings") ∧
      (report.passes strict = true ↔ Report.PassesByLines file strict lines) ∧
      (∃ fields isValid, report.json file strict = (Json.object fields).pretty ∧
        fields.lookup ("isValid" : Text) = some (.bool isValid) ∧
        (isValid = true ↔ Report.PassesByLines file strict lines)) ∧
      ∀ (s : Surroundings) flags asked, s.isStrict asked = .ok strict →
        s.readFilter file = .ok filter →
        ((s.run ⟨flags, some (.validate file asked)⟩).exitStatus = 0 ↔
          Report.PassesByLines file strict lines) := by
  intro report lines
  have hlinewise : report.IsLinewise := isLinewise_check filter
  have hlines : lines = report.diagnostics.map (Report.diagnosticLine false file) ++
      (if report.isClean then [] else [[]]) ++ [report.summary] :=
    Report.lines_table hlinewise hfile strict
  have hpasses := Report.passes_iff_passesByLines hlinewise hfile strict
  refine ⟨?_, ?_, Report.summary_eq_valid_iff, ?_, hpasses, ?_, ?_⟩
  -- the table is its lines, as none of them holds a line end
  · rw [hlines]
    rfl
  · simp only [hlines, Report.isClean_iff]
    rfl
  -- with findings the summary has two counts, which are those of the lines
  · intro hfindings
    rw [Report.countP_tells_lines_table hlinewise hfile, Report.countP_error,
      Report.countP_tells_lines_table hlinewise hfile, Report.countP_warning, Report.summary,
      if_neg (Report.isClean_iff.not.mpr hfindings)]
  · exact ⟨_, report.passes strict, rfl, rfl, hpasses⟩
  · intro s flags asked hstrict hfilter
    rw [Surroundings.exitStatus_run_validate hstrict hfilter]
    exact hpasses

/-- A filter with a warning and an error, on its second and third lines. -/
def unquoted : Text := "Show\n    Class Body Armours\n    SetFontSize 99\n"

theorem lines_table_and_passes_unquoted :
    let s : Surroundings := { accountHome := some "/home/exile", input := some unquoted }
    '\n' ∉ ("-" : Text) ∧
      (check unquoted).table false "-" false =
        ("-:2: warning: Multiple values should be in quotes (Class)\n" ++
          "-:3: error: Font size must be between 18 and 45\n\n1 error, 1 warning\n" : Text) ∧
      s.isStrict false = .ok false ∧ s.readFilter "-" = .ok unquoted ∧
      (s.run ⟨{}, some (.validate "-" false)⟩).exitStatus ≠ 0 := by
  intro s
  have hstrict : s.isStrict false = .ok false := rfl
  have hread : s.readFilter "-" = .ok unquoted := rfl
  have hname : '\n' ∉ ("-" : Text) := by decide
  obtain ⟨-, -, -, -, hpasses, -, hrun⟩ := lines_table_and_passes unquoted "-" false hname
  refine ⟨hname, by decide +kernel, hstrict, hread, ?_⟩
  rw [ne_eq, hrun s {} false hstrict hread, ← hpasses]
  decide +kernel

end Filter

end LootFilter
