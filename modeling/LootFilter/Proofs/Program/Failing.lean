import LootFilter.Program.Run
import LootFilter.Proofs.FileTree.Changes

/-!
# Runs that fail

A run that fails prints nothing. The one exception is a check of a filter that does not pass: its
failure is the result of the check, and the report is printed, also if the run is told to be quiet.

A run changes no file, unless it sets a setting and succeeds; then the file for settings is the only
one that it changes. What a failed run may leave are directories on the way to that file. They stay
where nothing was before.

Every command looks for what it needs before it prints anything, beginning with the place where the
settings are kept. So the argument is the same for each of them: its reply is that of a failed
command, or a reply without a failure.

## Main definitions

* `Reply.IsAllOrNothing` — a reply that prints nothing if it fails
* `Surroundings.presentation` — how a run presents its results
* `Surroundings.RejectsFilter` — a run that checks a filter which does not pass

## Main results

* `Surroundings.isAllOrNothing_runCommand` — what a command prints when it fails
* `Surroundings.setSetting_cases` — what becomes of the files when a setting is set
* `Surroundings.output_and_files_run` — what failing runs print, and which files runs change
-/

namespace LootFilter

/-- A reply that prints nothing if it tells a failure. -/
def Reply.IsAllOrNothing (r : Reply) : Prop := r.failure ≠ none → r.output = []

theorem Reply.isAllOrNothing_failed (f : Failure) (events : List Log.Event) :
    (Reply.failed f events).IsAllOrNothing :=
  fun _ => rfl

theorem Reply.isAllOrNothing_of_failure {r : Reply} (h : r.failure = none) : r.IsAllOrNothing :=
  fun hne => absurd h hne

theorem Outcome.exitStatus_eq_zero_iff {o : Outcome} :
    o.exitStatus = 0 ↔ o.reply.failure = none := by
  rw [exitStatus]
  cases o.reply.failure with
  | none => simp
  | some f => simp [f.exitStatus_ne_zero]

namespace Surroundings

variable {s : Surroundings} {p : Presentation} {i : Invocation} {path text : Text}
  {asked strict : Bool}

/-- How a run presents its results. -/
def presentation (s : Surroundings) (i : Invocation) : Presentation :=
  .of i.flags (s.valueOf? "NO_COLOR") s.presentationSettings.1

/-- A run that checks a filter which does not pass. -/
structure RejectsFilter (s : Surroundings) (i : Invocation) (path : Text) (strict : Bool)
    (text : Text) : Prop where
  command : ∃ asked, i.command = some (.validate path asked) ∧ s.isStrict asked = .ok strict
  readFilter : s.readFilter path = .ok text
  not_passes : (Filter.check text).passes strict = false

/-! ### Setting a setting -/

/-- Writing the settings fails and changes no file, or it succeeds and changes the file for
settings. -/
theorem saveSettings_cases (hpath : s.settingsPath = .ok path) (settings : Settings) :
    (∃ files f, s.saveSettings settings = (files, some f) ∧ s.files.AddsDirectories files) ∨
      ∃ files l content, s.saveSettings settings = (files, none) ∧
        files.locate path = .ok l ∧ files.get? l = some (.file (some content)) ∧
        s.files.AddsDirectoriesBeside files l := by
  have hadds := FileTree.addsDirectories_createParents s.files path
  simp only [saveSettings, hpath]
  -- the directories come first, and stay if the file cannot be written behind them
  split
  · next hmade => exact Or.inl ⟨_, _, rfl, by rwa [hmade] at hadds⟩
  · next made hmade =>
    rw [hmade] at hadds
    split
    · exact Or.inl ⟨_, _, rfl, hadds⟩
    · next hwrite =>
      obtain ⟨l, hlocate, hget, hbeside⟩ := FileTree.addsDirectoriesBeside_of_write hadds hwrite
      exact Or.inr ⟨_, l, _, rfl, hlocate, hget, hbeside⟩

/-- Setting a setting fails and leaves all files as they are, or it succeeds and changes the file
for settings. -/
theorem setSetting_cases (s : Surroundings) (p : Presentation) (key value : Text) :
    (∃ files f, s.setSetting p key value = ⟨.failed f, files⟩ ∧ s.files.AddsDirectories files) ∨
      ∃ path files l content, s.settingsPath = .ok path ∧
        s.setSetting p key value = ⟨settingSet p path key value, files⟩ ∧
        files.locate path = .ok l ∧ files.get? l = some (.file (some content)) ∧
        s.files.AddsDirectoriesBeside files l := by
  rw [setSetting]
  -- nothing is touched before the settings, their place and the new setting are all known
  split
  · exact Or.inl ⟨_, _, rfl, .refl _⟩
  split
  · exact Or.inl ⟨_, _, rfl, .refl _⟩
  next path hpath =>
    split
    · exact Or.inl ⟨_, _, rfl, .refl _⟩
    next settings _ =>
      rcases saveSettings_cases hpath settings with
        ⟨files, f, hsave, hadds⟩ | ⟨files, l, content, hsave, hlocate, hget, hbeside⟩
      · rw [hsave]
        exact Or.inl ⟨_, _, rfl, hadds⟩
      · rw [hsave]
        exact Or.inr ⟨_, _, l, content, hpath, rfl, hlocate, hget, hbeside⟩

theorem isAllOrNothing_setSetting (s : Surroundings) (p : Presentation) (key value : Text) :
    (s.setSetting p key value).reply.IsAllOrNothing := by
  rcases s.setSetting_cases p key value with ⟨files, f, h, -⟩ | ⟨path, files, -, -, -, h, -⟩
  · rw [h]
    exact Reply.isAllOrNothing_failed _ _
  · rw [h]
    exact Reply.isAllOrNothing_of_failure rfl

/-! ### What commands print -/

theorem isAllOrNothing_preview (s : Surroundings) (p : Presentation) (filter : Option Text)
    (o : ItemOptions) : (s.preview p filter o).IsAllOrNothing := by
  rw [preview]
  split
  · exact Reply.isAllOrNothing_failed _ _
  split
  · exact Reply.isAllOrNothing_failed _ _
  dsimp only
  split
  · exact Reply.isAllOrNothing_failed _ _
  · exact Reply.isAllOrNothing_of_failure rfl

theorem isAllOrNothing_blocks (s : Surroundings) (p : Presentation) (path : Text) :
    (s.blocks p path).IsAllOrNothing := by
  rw [blocks]
  split
  · exact Reply.isAllOrNothing_failed _ _
  · exact Reply.isAllOrNothing_of_failure rfl

theorem isAllOrNothing_printSettings (s : Surroundings) (p : Presentation) :
    (s.printSettings p).IsAllOrNothing := by
  rw [printSettings]
  split
  · exact Reply.isAllOrNothing_failed _ _
  split
  · exact Reply.isAllOrNothing_failed _ _
  · exact Reply.isAllOrNothing_of_failure rfl

theorem isAllOrNothing_printSettingsPath (s : Surroundings) (p : Presentation) :
    (s.printSettingsPath p).IsAllOrNothing := by
  rw [printSettingsPath]
  split
  · exact Reply.isAllOrNothing_failed _ _
  · exact Reply.isAllOrNothing_of_failure rfl

/-- What a check does with a filter that it can read: it prints the report, unless it passes
quietly, and fails if the report does not pass. -/
theorem validate_of_readFilter (hstrict : s.isStrict asked = .ok strict)
    (htext : s.readFilter path = .ok text) :
    let report := Filter.check text
    (s.validate p path asked).output =
        ({ p with quiet := p.quiet && report.passes strict } : Presentation).render
          (report.json path strict) (report.table p.inks path strict) ∧
      (s.validate p path asked).failure =
        if report.passes strict then none
        else some (.invalidFilter report.errorCount report.warningCount) := by
  simp only [validate, hstrict, htext, and_self]

/-- A check that does not come as far as the report prints nothing. -/
theorem isAllOrNothing_validate (h : ¬ ∃ strict text, s.isStrict asked = .ok strict ∧
    s.readFilter path = .ok text ∧ (Filter.check text).passes strict = false) :
    (s.validate p path asked).IsAllOrNothing := by
  cases hstrict : s.isStrict asked with
  | error f =>
    rw [validate, hstrict]
    exact Reply.isAllOrNothing_failed _ _
  | ok strict =>
    cases htext : s.readFilter path with
    | error f =>
      rw [validate, hstrict, htext]
      exact Reply.isAllOrNothing_failed _ _
    | ok text =>
      have hpasses : (Filter.check text).passes strict = true := by
        cases hfails : (Filter.check text).passes strict with
        | true => rfl
        | false => exact absurd ⟨strict, text, hstrict, htext, hfails⟩ h
      apply Reply.isAllOrNothing_of_failure
      rw [(validate_of_readFilter hstrict htext).2, if_pos hpasses]

/-- A command that fails prints nothing, unless it is a check whose report does not pass. -/
theorem isAllOrNothing_runCommand (h : ¬ ∃ path strict text, s.RejectsFilter i path strict text) :
    (s.runCommand p i.command).reply.IsAllOrNothing := by
  cases hcommand : i.command with
  | none => exact Reply.isAllOrNothing_of_failure rfl
  | some command =>
    cases command with
    | preview filter o => exact isAllOrNothing_preview s p filter o
    | validate path asked =>
      refine isAllOrNothing_validate ?_
      rintro ⟨strict, text, hstrict, htext, hfails⟩
      exact h ⟨path, strict, text, ⟨asked, hcommand, hstrict⟩, htext, hfails⟩
    | blocks path => exact isAllOrNothing_blocks s p path
    | settings command =>
      rcases command with _ | _ | ⟨key, value⟩ | _
      · exact isAllOrNothing_printSettings s p
      · exact isAllOrNothing_printSettings s p
      · exact isAllOrNothing_setSetting s p key value
      · exact isAllOrNothing_printSettingsPath s p
    | completions shell => exact Reply.isAllOrNothing_of_failure rfl

/-! ### What becomes of the files -/

/-- Only setting a setting touches the files. -/
theorem files_runCommand {command : Option Command}
    (h : ∀ key value, command ≠ some (.settings (some (.set key value)))) :
    (s.runCommand p command).files = s.files := by
  cases command with
  | none => rfl
  | some command =>
    cases command with
    | settings command =>
      rcases command with _ | _ | ⟨key, value⟩ | _
      · rfl
      · rfl
      · exact absurd rfl (h key value)
      · rfl
    | _ => rfl

/-! ### Runs -/

theorem output_run (s : Surroundings) (i : Invocation) :
    (s.run i).reply.output = (s.runCommand (s.presentation i) i.command).reply.output :=
  rfl

theorem failure_run (s : Surroundings) (i : Invocation) :
    (s.run i).reply.failure = (s.runCommand (s.presentation i) i.command).reply.failure :=
  rfl

theorem files_run (s : Surroundings) (i : Invocation) :
    (s.run i).files = (s.runCommand (s.presentation i) i.command).files :=
  rfl

/-- The run of a check whose filter does not pass: the status is that of an invalid filter, and the
output is the report, as JSON or as a table. -/
theorem RejectsFilter.run (h : s.RejectsFilter i path strict text) :
    (s.run i).exitStatus = 1 ∧
      (s.run i).reply.output =
        if (s.presentation i).json then (Filter.check text).json path strict ++ ['\n']
        else (Filter.check text).table (s.presentation i).inks path strict := by
  obtain ⟨asked, hcommand, hstrict⟩ := h.command
  obtain ⟨houtput, hfailure⟩ :=
    validate_of_readFilter (p := s.presentation i) hstrict h.readFilter
  have hreply : (s.runCommand (s.presentation i) i.command).reply =
      s.validate (s.presentation i) path asked := by
    rw [hcommand, runCommand]
  constructor
  · rw [Outcome.exitStatus, failure_run, hreply, hfailure, h.not_passes]
    rfl
  · -- a report that does not pass switches the quiet presentation off
    rw [output_run, hreply, houtput, h.not_passes, Bool.and_false, Presentation.render]
    rfl

/-- A run that sets a setting does to the files what setting does. -/
theorem files_and_failure_run_set {key value : Text}
    (h : i.command = some (.settings (some (.set key value)))) :
    (s.run i).files = (s.setSetting (s.presentation i) key value).files ∧
      (s.run i).reply.failure = (s.setSetting (s.presentation i) key value).reply.failure := by
  rw [failure_run, files_run, h]
  exact ⟨rfl, rfl⟩

/-- A run that fails leaves the files as they are. -/
theorem addsDirectories_run (h : (s.run i).exitStatus ≠ 0) :
    s.files.AddsDirectories (s.run i).files := by
  by_cases hset : ∃ key value, i.command = some (.settings (some (.set key value)))
  · obtain ⟨key, value, hcommand⟩ := hset
    obtain ⟨hfiles, hfailure⟩ := files_and_failure_run_set (s := s) hcommand
    rcases s.setSetting_cases (s.presentation i) key value with
      ⟨files, f, hrun, hadds⟩ | ⟨path, files, l, content, -, hrun, -⟩
    · rw [hfiles, hrun]
      exact hadds
    · -- a run that succeeds has no other status than zero
      rw [hrun] at hfailure
      exact absurd (Outcome.exitStatus_eq_zero_iff.mpr hfailure) h
  · have hfiles : (s.run i).files = s.files :=
      files_runCommand fun key value hcommand => hset ⟨key, value, hcommand⟩
    rw [hfiles]
    exact .refl s.files

/-- A run that sets a setting and succeeds changes the file for settings and no other file. -/
theorem addsDirectoriesBeside_run {key value : Text}
    (hcommand : i.command = some (.settings (some (.set key value))))
    (h : (s.run i).exitStatus = 0) :
    ∃ path l content, s.settingsPath = .ok path ∧ (s.run i).files.locate path = .ok l ∧
      (s.run i).files.get? l = some (.file (some content)) ∧
      s.files.AddsDirectoriesBeside (s.run i).files l := by
  obtain ⟨hfiles, hfailure⟩ := files_and_failure_run_set (s := s) hcommand
  rcases s.setSetting_cases (s.presentation i) key value with
    ⟨files, f, hrun, -⟩ | ⟨path, files, l, content, hpath, hrun, hlocate, hget, hbeside⟩
  · rw [Outcome.exitStatus_eq_zero_iff, hfailure, hrun] at h
    exact absurd h (by simp [Reply.failed])
  · rw [hfiles, hrun]
    exact ⟨path, l, content, hpath, hlocate, hget, hbeside⟩

/-- **Runs that fail.** A run that fails prints nothing, unless it checks a filter that does not
pass; then it prints exactly the report, whether or not it is told to be quiet. No run changes a
file, apart from one that sets a setting and succeeds: it changes the file for settings and no other
file. -/
theorem output_and_files_run (s : Surroundings) (i : Invocation) :
    ((s.run i).exitStatus ≠ 0 →
      (s.run i).reply.output = [] ∨ ∃ path strict text, s.RejectsFilter i path strict text) ∧
    (∀ path strict text, s.RejectsFilter i path strict text →
      (s.run i).exitStatus = 1 ∧
        (s.run i).reply.output =
          if (s.presentation i).json then (Filter.check text).json path strict ++ ['\n']
          else (Filter.check text).table (s.presentation i).inks path strict) ∧
    ((∀ key value, i.command ≠ some (.settings (some (.set key value)))) →
      (s.run i).files = s.files) ∧
    ((s.run i).exitStatus ≠ 0 → s.files.AddsDirectories (s.run i).files ∧
      ∀ l c, (s.run i).files.get? l = some (.file c) ↔ s.files.get? l = some (.file c)) ∧
    ∀ key value, i.command = some (.settings (some (.set key value))) →
      (s.run i).exitStatus = 0 →
      ∃ path l content, s.settingsPath = .ok path ∧ (s.run i).files.locate path = .ok l ∧
        (s.run i).files.get? l = some (.file (some content)) ∧
        s.files.AddsDirectoriesBeside (s.run i).files l := by
  refine ⟨?_, fun path strict text h => h.run, files_runCommand, ?_, ?_⟩
  · intro hstatus
    by_cases hrejects : ∃ path strict text, s.RejectsFilter i path strict text
    · exact Or.inr hrejects
    · refine Or.inl (isAllOrNothing_runCommand hrejects ?_)
      rwa [ne_eq, ← Outcome.exitStatus_eq_zero_iff]
  · intro hstatus
    have hadds := addsDirectories_run hstatus
    exact ⟨hadds, fun l c => hadds.get?_eq_file_iff⟩
  · intro key value hcommand hstatus
    exact addsDirectoriesBeside_run hcommand hstatus

/-- A filter with a block that has no conditions, on the input. -/
def bareBlock : Surroundings where
  accountHome := some "/home/exile"
  input := some "Show\n"

/-- A check of the input that is told to be quiet, and to print without inks. -/
def quietCheck : Invocation := ⟨{ quiet := true, noColor := true }, some (.validate "-" false)⟩

/-- No variables, and an account without a home directory. -/
def homeless : Surroundings := {}

/-- A question for the path of the settings file. -/
def pathQuery : Invocation := ⟨{}, some (.settings (some .path))⟩

theorem output_and_files_run_quietCheck :
    bareBlock.RejectsFilter quietCheck "-" false "Show\n" ∧
      (bareBlock.run quietCheck).exitStatus = 1 ∧
      (bareBlock.run quietCheck).reply.output =
        ("-:1: error: Final block has no conditions\n\n1 error, 0 warnings\n" : Text) ∧
      (bareBlock.run quietCheck).files = bareBlock.files ∧
      (homeless.run pathQuery).exitStatus = 5 ∧ (homeless.run pathQuery).reply.output = [] := by
  have hrejects : bareBlock.RejectsFilter quietCheck "-" false "Show\n" :=
    ⟨⟨false, rfl, rfl⟩, rfl, by decide⟩
  obtain ⟨-, hreport, hfiles, -, -⟩ := output_and_files_run bareBlock quietCheck
  obtain ⟨hstatus, houtput⟩ := hreport _ _ _ hrejects
  have hhomeless : (homeless.run pathQuery).exitStatus = 5 := rfl
  obtain ⟨hprinted, -⟩ := output_and_files_run homeless pathQuery
  refine ⟨hrejects, hstatus, houtput.trans ?_, hfiles ?_, hhomeless, ?_⟩
  · decide +kernel
  · intro key value h
    exact absurd h (by simp [quietCheck])
  · rcases hprinted (by rw [hhomeless]; decide) with hempty | ⟨path, strict, text, hrejects⟩
    · exact hempty
    · -- it checks no filter
      obtain ⟨asked, hcommand, -⟩ := hrejects.command
      exact absurd hcommand (by simp [pathQuery])

end Surroundings

end LootFilter
