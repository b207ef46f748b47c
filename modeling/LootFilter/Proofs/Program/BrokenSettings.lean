import LootFilter.Proofs.Program.Failing

/-!
# Runs with a broken file for settings

The settings are read twice: at the start of every run, for the presentation of the results, and
again by the commands that ask for one. At the start a file that holds no settings is passed over,
and the presentation is that of an empty file. A command that asks for a setting fails with it. So a
broken file is felt only by the commands that need a setting, and these do nothing else: they print
nothing and leave the files as they are.

A command may also be told to read the broken file itself, as a filter or as the description of an
item. Then it goes by what stands there, and an empty file is something else to it. No other run of
a command that needs no setting tells a broken file from an empty one.

Where no place for the settings is known, the commands that need a setting fail as well, and with
them the command that asks for the place.

## Main definitions

* `Surroundings.HasBrokenFile` — the file for settings holds none
* `Surroundings.withEmptyFile` — the same with an empty file
* `Command.isSelfContained`, `Command.needsSettings` — which commands ask for a setting
* `Command.filesRead` — the files that a command is told to read

## Main results

* `Surroundings.runCommand_of_settings_eq_error` — commands that cannot do without the settings
* `Surroundings.AgreesFor.reply_runCommand` — commands that can
* `Surroundings.run_of_settingsPath_eq_error` — runs that know no place for the settings
* `Surroundings.run_of_hasBrokenFile` — runs with a broken file for settings
-/

namespace LootFilter

namespace Command

/-- Whether a command is told all that it could ask the settings for. -/
def isSelfContained : Command → Bool
  | .preview filter _ => filter.isSome
  | .validate _ strict => strict
  | .blocks _ => true
  | .settings _ | .completions _ => false

/-- Whether a command cannot do without the settings. -/
def needsSettings : Command → Bool
  | .preview filter _ => filter.isNone
  | .validate _ strict => !strict
  | .settings none | .settings (some .print) | .settings (some (.set ..)) => true
  | .settings (some .path) | .blocks _ | .completions _ => false

/-- The path of the file for a filter; there is none if the filter is the input. -/
def filterFile (path : Text) : List Text := if path = ['-'] then [] else [path]

/-- The paths of the files that a command is told to read. -/
def filesRead : Command → List Text
  | .preview filter o => (filter.map filterFile).getD [] ++ o.file.toList
  | .validate path _ | .blocks path => filterFile path
  | .settings _ | .completions _ => []

end Command

namespace Surroundings

variable {s s' : Surroundings} {p : Presentation} {i : Invocation} {command : Command}
  {l : FileTree.Location} {content : Option Text} {path : Text} {f : Failure}

/-- The file for settings stands at a location, and its content is none: it encodes no text, or the
text holds no settings. -/
structure HasBrokenFile (s : Surroundings) (l : FileTree.Location) (content : Option Text) :
    Prop where
  locate : ∃ path, s.settingsPath = .ok path ∧ s.files.locate path = .ok l
  get? : s.files.get? l = some (.file content)
  broken : content.bind Settings.ofFile? = none

/-- The surroundings with an empty file at a location. -/
def withEmptyFile (s : Surroundings) (l : FileTree.Location) : Surroundings :=
  { s with files := s.files.insert l (.file (some [])) }

/-! ### The settings -/

theorem HasBrokenFile.exists_settings_eq_error (h : s.HasBrokenFile l content) :
    ∃ reason, s.settings = .error (.settings reason) := by
  obtain ⟨path, hpath, hlocate⟩ := h.locate
  have hpresent : s.files.isPresent path = true := by
    simp [FileTree.isPresent, hlocate, h.get?]
  rw [settings_of_settingsPath hpath]
  cases content with
  | none =>
    have hread : s.files.read path = .error .notText := by
      simp [FileTree.read, hlocate, h.get?]
    exact ⟨.unreadable .notText, by simp [readSettings, hpresent, hread]⟩
  | some text =>
    have hread : s.files.read path = .ok text := by
      simp [FileTree.read, hlocate, h.get?]
    have hbroken : Settings.ofFile? text = none := h.broken
    exact ⟨.malformed, by simp [readSettings, hpresent, hread, hbroken]⟩

/-- An empty file holds the default settings. -/
theorem HasBrokenFile.settings_withEmptyFile (h : s.HasBrokenFile l content) :
    (s.withEmptyFile l).settings = .ok {} := by
  obtain ⟨path, hplace, hold⟩ := h.locate
  -- the place does not depend on the files
  have hpath : (s.withEmptyFile l).settingsPath = .ok path := hplace
  have hlocate : (s.withEmptyFile l).files.locate path = .ok l :=
    (FileTree.locate_insert_of_file h.get? (some []) path).trans hold
  have hget : (s.withEmptyFile l).files.get? l = some (.file (some [])) :=
    FileTree.get?_insert_self _ (FileTree.isOuter_of_get?_ne (t := s.files) (by simp [h.get?]))
  have hpresent : (s.withEmptyFile l).files.isPresent path = true := by
    simp [FileTree.isPresent, hlocate, hget]
  have hread : (s.withEmptyFile l).files.read path = .ok [] := by
    simp [FileTree.read, hlocate, hget]
  have hempty : Settings.ofFile? [] = some {} := by decide
  rw [settings_of_settingsPath hpath]
  simp [readSettings, hpresent, hread, hempty]

/-- An empty file makes the same presentation as a broken one. -/
theorem HasBrokenFile.presentation_withEmptyFile (h : s.HasBrokenFile l content)
    (i : Invocation) : (s.withEmptyFile l).presentation i = s.presentation i := by
  obtain ⟨reason, hbroken⟩ := h.exists_settings_eq_error
  have hvalue : (s.withEmptyFile l).valueOf? "NO_COLOR" = s.valueOf? "NO_COLOR" := rfl
  simp only [presentation, presentationSettings, h.settings_withEmptyFile, hbroken, hvalue]

/-! ### Commands that need a setting -/

/-- Without settings a command that needs them fails, prints nothing and touches no file. -/
theorem runCommand_of_settings_eq_error (h : s.settings = .error f)
    (hneeds : command.needsSettings = true) :
    s.runCommand p (some command) = ⟨.failed f, s.files⟩ := by
  cases command with
  | preview filter o =>
    obtain rfl : filter = none := by simpa [Command.needsSettings] using hneeds
    simp [runCommand, preview, h, bind, Except.bind]
  | validate path strict =>
    obtain rfl : strict = false := by simpa [Command.needsSettings] using hneeds
    simp [runCommand, validate, isStrict, h, Except.map]
  | blocks path => exact absurd hneeds (by simp [Command.needsSettings])
  | settings command =>
    rcases command with _ | _ | ⟨key, value⟩ | _
    · simp [runCommand, printSettings, h]
    · simp [runCommand, printSettings, h]
    · simp [runCommand, setSetting, h]
    · exact absurd hneeds (by simp [Command.needsSettings])
  | completions shell => exact absurd hneeds (by simp [Command.needsSettings])

/-! ### Commands that need none -/

/-- What two surroundings have in common for a command that needs no setting: the input, and what is
read from the files that the command is told to read. -/
structure AgreesFor (s s' : Surroundings) (command : Command) : Prop where
  input : s.input = s'.input
  read : ∀ path ∈ command.filesRead, s.files.read path = s'.files.read path

theorem readFilter_congr (hinput : s.input = s'.input)
    (hread : ∀ path' ∈ Command.filterFile path, s.files.read path' = s'.files.read path') :
    s.readFilter path = s'.readFilter path := by
  unfold readFilter
  by_cases hhyphen : path = ['-']
  · rw [if_pos hhyphen, if_pos hhyphen, hinput]
  · have hpath : s.files.read path = s'.files.read path :=
      hread path (by simp [Command.filterFile, hhyphen])
    rw [if_neg hhyphen, if_neg hhyphen, readFile, readFile, hpath]

theorem item_congr {o : ItemOptions}
    (hread : ∀ path ∈ o.file, s.files.read path = s'.files.read path) : s.item o = s'.item o := by
  unfold item
  cases hfile : o.file with
  | none => rfl
  | some path => simp only [readFile, hread path hfile]

/-- A command that needs no setting replies the same wherever it reads the same. -/
theorem AgreesFor.reply_runCommand (h : s.AgreesFor s' command)
    (hself : command.isSelfContained = true) :
    (s.runCommand p (some command)).reply = (s'.runCommand p (some command)).reply := by
  cases command with
  | preview filter o =>
    obtain ⟨path, rfl⟩ : ∃ path, filter = some path := Option.isSome_iff_exists.mp hself
    have hfilter : s.readFilter path = s'.readFilter path :=
      readFilter_congr h.input fun path' hpath => h.read path' (List.mem_append_left _ hpath)
    have hitem : s.item o = s'.item o :=
      item_congr fun path' hpath => h.read path' (List.mem_append_right _ (by simpa using hpath))
    simp only [runCommand, preview, filterPath, Option.isSome_some, if_true, Option.some_or, hitem,
      hfilter]
  | validate path strict =>
    obtain rfl : strict = true := hself
    simp only [runCommand, validate, isStrict, if_true, readFilter_congr h.input h.read]
  | blocks path => simp only [runCommand, blocks, readFilter_congr h.input h.read]
  | settings command => exact absurd hself (by simp [Command.isSelfContained])
  | completions shell => exact absurd hself (by simp [Command.isSelfContained])

/-- With an empty file for settings, what other paths lead to is read as before. -/
theorem HasBrokenFile.agreesFor_withEmptyFile (h : s.HasBrokenFile l content)
    (hother : ∀ path ∈ command.filesRead, s.files.locate path ≠ .ok l) :
    (s.withEmptyFile l).AgreesFor s command where
  input := rfl
  read path hpath := FileTree.read_insert_of_file h.get? (some []) (hother path hpath)

/-! ### Runs -/

/-- A run whose command fails for want of settings. -/
theorem run_of_runCommand_eq_failed {reason : SettingsFailure}
    (h : s.runCommand (s.presentation i) i.command = ⟨.failed (.settings reason), s.files⟩) :
    (s.run i).exitStatus = 5 ∧ (s.run i).reply.output = [] ∧ (s.run i).files = s.files := by
  rw [Outcome.exitStatus, failure_run, output_run, files_run, h]
  exact ⟨rfl, rfl, rfl⟩

/-- Where no place for the settings is known, a run whose command needs a setting ends with status
5, prints nothing, and leaves the files as they are. So does one that asks for the place. -/
theorem run_of_settingsPath_eq_error (h : s.settingsPath = .error f)
    (hcommand : i.command = some command)
    (hneeds : command.needsSettings = true ∨ command = .settings (some .path)) :
    (s.run i).exitStatus = 5 ∧ (s.run i).reply.output = [] ∧ (s.run i).files = s.files := by
  obtain ⟨-, -, -, rfl⟩ := settingsPath_eq_error_iff.mp h
  apply run_of_runCommand_eq_failed
  rw [hcommand]
  rcases hneeds with hneeds | rfl
  · exact runCommand_of_settings_eq_error (settings_of_settingsPath_eq_error h) hneeds
  · simp only [runCommand, printSettingsPath, h]

/-- **Runs with a broken file for settings.** A run whose command needs no setting prints the same
and ends with the same status as with an empty file, unless the command is told to read this very
file. A run whose command needs a setting ends with status 5, prints nothing, and leaves the files
as they are. -/
theorem run_of_hasBrokenFile (h : s.HasBrokenFile l content) (hcommand : i.command = some command) :
    (command.isSelfContained = true →
      (∀ path ∈ command.filesRead, s.files.locate path ≠ .ok l) →
      (s.run i).reply.output = ((s.withEmptyFile l).run i).reply.output ∧
        (s.run i).exitStatus = ((s.withEmptyFile l).run i).exitStatus) ∧
    (command.needsSettings = true →
      (s.run i).exitStatus = 5 ∧ (s.run i).reply.output = [] ∧ (s.run i).files = s.files) := by
  constructor
  · intro hself hother
    have hreply := (h.agreesFor_withEmptyFile hother).reply_runCommand (p := s.presentation i) hself
    simp only [Outcome.exitStatus, output_run, failure_run, h.presentation_withEmptyFile, hcommand,
      hreply, and_self]
  · intro hneeds
    obtain ⟨reason, hbroken⟩ := h.exists_settings_eq_error
    apply run_of_runCommand_eq_failed
    rw [hcommand]
    exact runCommand_of_settings_eq_error hbroken hneeds

/-- A filter in place of the settings, and next to it a filter with an error. -/
def misplacedFilter : Surroundings where
  «variables» := [("PF_CONFIG", "config.toml")]
  files := (FileTree.insert {} ["config.toml"] (.file (some "Show\n"))).insert ["bare.filter"]
    (.file (some "Hide\n"))

/-- A check of the filter with the error, which may be strict. -/
def bareCheck (strict : Bool) : Invocation :=
  ⟨{ noColor := true }, some (.validate "bare.filter" strict)⟩

theorem hasBrokenFile_misplacedFilter :
    misplacedFilter.HasBrokenFile ["config.toml"] (some "Show\n") :=
  ⟨⟨_, rfl, rfl⟩, rfl, by decide⟩

theorem run_of_hasBrokenFile_misplacedFilter :
    misplacedFilter.HasBrokenFile ["config.toml"] (some "Show\n") ∧
      (∀ path ∈ (Command.validate "bare.filter" true).filesRead,
        misplacedFilter.files.locate path ≠ .ok ["config.toml"]) ∧
      (misplacedFilter.run (bareCheck true)).reply.output =
        ("bare.filter:1: error: Final block has no conditions\n\n1 error, 0 warnings\n" : Text) ∧
      (misplacedFilter.run (bareCheck true)).exitStatus = 1 ∧
      (misplacedFilter.run (bareCheck false)).exitStatus = 5 ∧
      (misplacedFilter.run (bareCheck false)).reply.output = [] := by
  have hother : ∀ path ∈ (Command.validate "bare.filter" true).filesRead,
      misplacedFilter.files.locate path ≠ .ok ["config.toml"] := by
    intro path hpath
    obtain rfl := List.mem_singleton.mp hpath
    have hlocate : misplacedFilter.files.locate "bare.filter" = .ok ["bare.filter"] := rfl
    rw [hlocate]
    exact fun h => absurd (Except.ok.inj h) (by decide)
  obtain ⟨hsame, -⟩ := run_of_hasBrokenFile hasBrokenFile_misplacedFilter (i := bareCheck true) rfl
  obtain ⟨-, hfails⟩ :=
    run_of_hasBrokenFile hasBrokenFile_misplacedFilter (i := bareCheck false) rfl
  obtain ⟨houtput, hstatus⟩ := hsame rfl hother
  obtain ⟨hstatus', houtput', -⟩ := hfails rfl
  refine ⟨hasBrokenFile_misplacedFilter, hother, ?_, ?_, hstatus', houtput'⟩
  · rw [houtput]
    decide +kernel
  · rw [hstatus]
    decide +kernel

/-- The list of the blocks of the broken file is not that of an empty file. -/
theorem not_forall_run_eq_withEmptyFile :
    ¬ ∀ (s : Surroundings) (l : FileTree.Location) (content : Option Text) (i : Invocation)
      (command : Command), s.HasBrokenFile l content → i.command = some command →
      command.isSelfContained = true →
      (s.run i).reply.output = ((s.withEmptyFile l).run i).reply.output ∧
        (s.run i).exitStatus = ((s.withEmptyFile l).run i).exitStatus := by
  intro h
  let listing : Invocation := ⟨{ noColor := true }, some (.blocks "config.toml")⟩
  have hsame := h misplacedFilter ["config.toml"] (some "Show\n") listing (.blocks "config.toml")
    hasBrokenFile_misplacedFilter rfl rfl
  exact absurd hsame.1 (by decide +kernel)

end Surroundings

end LootFilter
