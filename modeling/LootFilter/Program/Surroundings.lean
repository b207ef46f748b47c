import LootFilter.CommandLine.Command
import LootFilter.Log.Directive
import LootFilter.Program.Failure

/-!
# Surroundings of a run

What a run finds: environment variables, the home directory of the account, the input, and the
files. They decide where the settings are kept, how results are presented, and which events are
told. A run may find no place for the settings at all: then all that asks for them fails.

## Main definitions

* `Surroundings` — what a run finds
* `Surroundings.settingsPath` — where the settings are kept, if there is a place for them
* `Presentation` — how results are presented
* `Surroundings.directives` — which events are told

## Main results

* `Surroundings.settingsPath_eq_error_iff` — when there is no place for the settings
-/

namespace LootFilter

/-- What a run finds. -/
structure Surroundings where
  /-- The environment variables that are set. -/
  «variables» : List (Text × Text) := []
  /-- The home directory of the account, if the account has one. -/
  accountHome : Option Text := none
  /-- The input; missing if its bytes encode no text. -/
  input : Option Text := some []
  /-- The files. -/
  files : FileTree := {}

/-- A path and a name below it. -/
def joinedPath (path name : Text) : Text :=
  if path.isEmpty ∨ path.getLast? = some '/' then path ++ name else path ++ '/' :: name

namespace Surroundings

/-- The value of an environment variable. -/
def valueOf? (s : Surroundings) (name : Text) : Option Text := s.«variables».lookup name

/-- The home directory: that of the environment, or else that of the account. An empty one is as
good as none. -/
def home? (s : Surroundings) : Option Text :=
  ((s.valueOf? "HOME").filter (!·.isEmpty)).or (s.accountHome.filter (!·.isEmpty))

/-- The directory below which programs keep their settings, if one is known. -/
def settingsHome? (s : Surroundings) : Option Text :=
  (s.valueOf? "XDG_CONFIG_HOME").or (s.home?.map (joinedPath · ".config"))

/-- The path of the settings file. -/
def settingsPath (s : Surroundings) : Except Failure Text :=
  match s.valueOf? "PF_CONFIG" with
  | some path => .ok path
  | none =>
    match s.settingsHome? with
    | some home => .ok (joinedPath (joinedPath home "pf") "config.toml")
    | none => .error (.settings .unknownPlace)

/-- Which events are told: what the environment asks for, or else what the flags do. A variable that
cannot be read is as good as none. -/
def directives (s : Surroundings) (f : Flags) : List Log.Directive :=
  ((s.valueOf? "RUST_LOG").bind Log.directivesOfSetting?).getD [.ofThreshold (some f.threshold)]

/-- There is no place for the settings exactly if no variable names one and no home directory is
known. -/
theorem settingsPath_eq_error_iff {s : Surroundings} {f : Failure} :
    s.settingsPath = .error f ↔
      s.valueOf? "PF_CONFIG" = none ∧ s.valueOf? "XDG_CONFIG_HOME" = none ∧ s.home? = none ∧
        f = .settings .unknownPlace := by
  have hhome : s.settingsHome? = none ↔
      s.valueOf? "XDG_CONFIG_HOME" = none ∧ s.home? = none := by
    rw [settingsHome?, Option.or_eq_none_iff, Option.map_eq_none_iff]
  rw [← and_assoc (a := s.valueOf? "XDG_CONFIG_HOME" = none), ← hhome, settingsPath]
  cases s.valueOf? "PF_CONFIG" with
  | some path => simp
  | none => cases s.settingsHome? <;> simp [eq_comm]

end Surroundings

/-- How results are presented. -/
structure Presentation where
  /-- In JSON rather than as tables. -/
  json : Bool
  /-- With inks. -/
  inks : Bool
  /-- Not at all, unless in JSON. -/
  quiet : Bool
  deriving Repr, DecidableEq

/-- The presentation that flags, the environment and the settings ask for. A value in the variable
`NO_COLOR` always switches inks off. -/
def Presentation.of (f : Flags) (noColor : Option Text) (s : Settings) : Presentation where
  json := f.json || s.json.getD false
  inks := !f.noColor && noColor.all List.isEmpty && s.color.getD true
  quiet := f.quiet

end LootFilter
