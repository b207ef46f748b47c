import LootFilter.Filter.Listing
import LootFilter.Filter.Preview
import LootFilter.Program.Completions
import LootFilter.Program.Failure
import LootFilter.Program.Surroundings
import LootFilter.Report.Check
import LootFilter.Report.Listing

/-!
# Runs

What a command prints, what it tells on the side, and what becomes of the files. Only setting a
setting changes a file. The settings are read at the start of every run; if that fails, only the
commands that need a setting fail with it. If there is no place for the settings, the command that
prints this place fails as well.

## Main definitions

* `Reply` — what a command answers
* `Surroundings.preview`, `Surroundings.validate`, … — the commands
* `Surroundings.run` — the outcome of a run
-/

namespace LootFilter

/-- What a command answers. -/
structure Reply where
  /-- What it prints. -/
  output : Text := []
  /-- What it tells on the side. -/
  events : List Log.Event := []
  /-- Why it fails, if it does. -/
  failure : Option Failure := none

/-- A command that fails and prints nothing. -/
def Reply.failed (f : Failure) (events : List Log.Event := []) : Reply :=
  { events, failure := some f }

/-- The outcome of a run: the reply, and the files after it. -/
structure Outcome where
  /-- The reply. -/
  reply : Reply
  /-- The files. -/
  files : FileTree

/-- The exit status of a run. -/
def Outcome.exitStatus (o : Outcome) : Nat := (o.reply.failure.map Failure.exitStatus).getD 0

namespace Presentation

/-- What is printed of a result: JSON, a table, or nothing. -/
def render (p : Presentation) (json table : Text) : Text :=
  if p.json then json ++ ['\n'] else if p.quiet then [] else table

end Presentation

namespace Surroundings

/-! ### Reading -/

/-- The settings in the file at a path. They are the default ones if there is no file. -/
def readSettings (s : Surroundings) (path : Text) : Except Failure Settings :=
  if s.files.isPresent path then
    match s.files.read path with
    | .error fault => .error (.settings (.unreadable fault))
    | .ok content =>
      match Settings.ofFile? content with
      | some settings => .ok settings
      | none => .error (.settings .malformed)
  else .ok {}

/-- The settings. -/
def settings (s : Surroundings) : Except Failure Settings := s.settingsPath >>= s.readSettings

theorem settings_of_settingsPath {s : Surroundings} {path : Text} (h : s.settingsPath = .ok path) :
    s.settings = s.readSettings path := by
  rw [settings, h]
  rfl

/-- Without a place for the settings there are none. -/
theorem settings_of_settingsPath_eq_error {s : Surroundings} {f : Failure}
    (h : s.settingsPath = .error f) : s.settings = .error f := by
  rw [settings, h]
  rfl

/-- The content of a file. -/
def readFile (s : Surroundings) (path : Text) : Except Failure Text :=
  match s.files.read path with
  | .ok content => .ok content
  | .error fault => .error (.unreadable path fault)

/-- The text of a filter: that of a file, or the input if the path is a hyphen. -/
def readFilter (s : Surroundings) (path : Text) : Except Failure Text :=
  if path = ['-'] then
    match s.input with
    | some text => .ok text
    | none => .error (.unreadableInput .notText)
  else s.readFile path

/-- The path of the filter to preview: what is given, or the one in the settings. -/
def filterPath (given : Option Text) (settings : Settings) : Except Failure Text :=
  match given.or settings.defaultFilter with
  | some path => .ok path
  | none => .error (.settings .noDefaultFilter)

/-- The item that options describe: that of the file, with the properties that are given. -/
def item (s : Surroundings) (o : ItemOptions) : Except Failure Item :=
  match o.file with
  | none => .ok (o.applyTo {})
  | some path => do
    let content ← s.readFile path
    match Item.read content with
    | .ok i => return o.applyTo i
    | .error _ => .error (.invalidItem path)

/-! ### Commands -/

/-- Shows how a filter displays an item. The settings are asked only if no filter is given. -/
def preview (s : Surroundings) (p : Presentation) (filter : Option Text) (o : ItemOptions) :
    Reply :=
  let path := if filter.isSome then filterPath filter {} else s.settings >>= filterPath none
  match path with
  | .error f => .failed f
  | .ok path =>
    match s.item o with
    | .error f => .failed f
    | .ok i =>
      let warning := if i.hasBaseType then [] else [.namelessItem]
      match s.readFilter path with
      | .error f => .failed f warning
      | .ok text =>
        let result := Filter.preview text i
        { output := p.render result.json (result.table p.inks)
          events := warning ++ [.previewing path i.baseType] ++ Filter.verdictEvents text i }

/-- Whether a check is strict: if it is asked for, or else if the settings say so. -/
def isStrict (s : Surroundings) (asked : Bool) : Except Failure Bool :=
  if asked then .ok true else s.settings.map fun settings => settings.warningsAsErrors.getD false

/-- Checks a filter. A report that does not pass is printed in any case. -/
def validate (s : Surroundings) (p : Presentation) (path : Text) (asked : Bool) : Reply :=
  match s.isStrict asked with
  | .error f => .failed f
  | .ok strict =>
    match s.readFilter path with
    | .error f => .failed f
    | .ok text =>
      let report := Filter.check text
      let passes := report.passes strict
      let p := { p with quiet := p.quiet && passes }
      { output := p.render (report.json path strict) (report.table p.inks path strict)
        events :=
          [.checked report.errorCount report.warningCount,
            .checkedFile path strict report.diagnostics.length]
        failure :=
          if passes then none
          else some (.invalidFilter report.errorCount report.warningCount) }

/-- Lists the blocks of a filter. -/
def blocks (s : Surroundings) (p : Presentation) (path : Text) : Reply :=
  match s.readFilter path with
  | .error f => .failed f
  | .ok text =>
    let blocks := Filter.blocks text
    { output := p.render (Listing.json blocks) (Listing.table p.inks blocks)
      events := Filter.readingEvents text ++ [.blocksRead blocks.length] }

/-- A line for a setting; none if it is not set. -/
def settingLine (name : Text) (value : Option Text) : List Text :=
  (value.map fun v => "  " ++ name ++ ": " ++ v).toList

/-- The lines for the settings, section by section. -/
def settingLines (settings : Settings) : List Text :=
  ("[output]" : Text) :: settingLine "color" (settings.color.map Text.ofBool) ++
    settingLine "json" (settings.json.map Text.ofBool) ++
  [] :: ("[validate]" : Text) ::
    settingLine "warnings_as_errors" (settings.warningsAsErrors.map Text.ofBool) ++
  [] :: ("[preview]" : Text) :: settingLine "default_filter" settings.defaultFilter

/-- The lines about the settings and their file. -/
def settingsTable (s : Surroundings) (inks : Bool) (path : Text) (settings : Settings) : Text :=
  let present := s.files.isPresent path
  Text.unlines
    ([Text.inked inks [.green, .bold] "Configuration", [],
      "File: " ++ path, "Exists: " ++ Text.ofBool present, []] ++
      if present then settingLines settings
      else ["(No config file exists. Run 'pf config set <key> <value>' to create one.)"])

/-- The fields that tell about the settings file. -/
def settingsFileFields (s : Surroundings) (path : Text) : List (Text × Json) :=
  [("exists", .bool (s.files.isPresent path)), ("path", .string path)]

/-- Prints the settings. -/
def printSettings (s : Surroundings) (p : Presentation) : Reply :=
  match s.settings with
  | .error f => .failed f
  | .ok settings =>
    match s.settingsPath with
    | .error f => .failed f
    | .ok path =>
      let json := Json.object (("config", settings.toJson) :: s.settingsFileFields path)
      { output := p.render json.pretty (s.settingsTable p.inks path settings) }

/-- Prints the path of the settings file, also if told to be quiet. -/
def printSettingsPath (s : Surroundings) (p : Presentation) : Reply :=
  match s.settingsPath with
  | .error f => .failed f
  | .ok path =>
    let p := { p with quiet := false }
    { output := p.render (Json.object (s.settingsFileFields path)).pretty (path ++ ['\n']) }

/-- The files after the settings have been written, and why that fails, if it does. Directories that
have been made for the settings stay in any case. -/
def saveSettings (s : Surroundings) (settings : Settings) : FileTree × Option Failure :=
  match s.settingsPath with
  | .error f => (s.files, some f)
  | .ok path =>
    match s.files.createParents path with
    | (files, some fault) => (files, some (.settings (.noDirectory fault)))
    | (files, none) =>
      match files.write path settings.toFile with
      | .error fault => (files, some (.settings (.unwritable fault)))
      | .ok files => (files, none)

/-- What is answered after a setting has been set. -/
def settingSet (p : Presentation) (path key value : Text) : Reply :=
  let json := Json.object [("key", .string key), ("path", .string path),
    ("status", .string "success"), ("value", .string value)]
  { output := p.render json.pretty ("Set " ++ key ++ " = " ++ value ++ ['\n']) }

/-- Sets a setting, and writes all of them. -/
def setSetting (s : Surroundings) (p : Presentation) (key value : Text) : Outcome :=
  match s.settings with
  | .error f => ⟨.failed f, s.files⟩
  | .ok settings =>
    match s.settingsPath with
    | .error f => ⟨.failed f, s.files⟩
    | .ok path =>
      match settings.set key value with
      | .error fault => ⟨.failed (.settings (.rejected fault)), s.files⟩
      | .ok settings =>
        match s.saveSettings settings with
        | (files, some f) => ⟨.failed f, files⟩
        | (files, none) => ⟨settingSet p path key value, files⟩

/-- What is printed if no command is given. -/
def greeting : Text :=
  Text.unlines ["pf - Path of Exile item filter tool", "Use --help for usage information"]

/-- The outcome of a command. -/
def runCommand (s : Surroundings) (p : Presentation) : Option Command → Outcome
  | none => ⟨{ output := if p.quiet then [] else greeting }, s.files⟩
  | some (.preview filter o) => ⟨s.preview p filter o, s.files⟩
  | some (.validate path strict) => ⟨s.validate p path strict, s.files⟩
  | some (.blocks path) => ⟨s.blocks p path, s.files⟩
  | some (.settings none) | some (.settings (some .print)) => ⟨s.printSettings p, s.files⟩
  | some (.settings (some .path)) => ⟨s.printSettingsPath p, s.files⟩
  | some (.settings (some (.set key value))) => s.setSetting p key value
  | some (.completions shell) => ⟨{ output := shell.completions }, s.files⟩

/-- The settings for the presentation, and the events of reading them. -/
def presentationSettings (s : Surroundings) : Settings × List Log.Event :=
  match s.settings with
  | .ok settings => (settings, [])
  | .error f => ({}, [.settingsIgnored f.message])

/-- The outcome of a run. -/
def run (s : Surroundings) (i : Invocation) : Outcome :=
  let (settings, warning) := s.presentationSettings
  let outcome := s.runCommand (.of i.flags (s.valueOf? "NO_COLOR") settings) i.command
  { outcome with reply := { outcome.reply with events := warning ++ outcome.reply.events } }

/-- The lines that a run tells on the side. -/
def logLines (s : Surroundings) (i : Invocation) (o : Outcome) : List Text :=
  Log.lines (s.directives i.flags) o.reply.events

end Surroundings

end LootFilter
