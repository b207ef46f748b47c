import LootFilter.FileTree
import LootFilter.Json.Basic
import LootFilter.Settings.Basic

/-!
# Failures

Why a command does not do what it is asked for: the causes, how they are told, and the exit status
for each.

## Main definitions

* `SettingsFailure`, `Failure` — the causes
* `Failure.message`, `Failure.code`, `Failure.exitStatus` — how a failure is told
-/

namespace LootFilter

/-- Why the settings are of no use. -/
inductive SettingsFailure
  /-- No directory is known in which the settings could be kept. -/
  | unknownPlace
  /-- A preview names no filter, and the settings name none either. -/
  | noDefaultFilter
  /-- The file cannot be read. -/
  | unreadable (fault : FileFault)
  /-- The file holds no settings. -/
  | malformed
  /-- The directory of the file cannot be made. -/
  | noDirectory (fault : FileFault)
  /-- The file cannot be written. -/
  | unwritable (fault : FileFault)
  /-- A setting cannot be set. -/
  | rejected (fault : SettingFault)
  deriving Repr, DecidableEq

/-- The wording of a failure of the settings. For a file that holds none it ends with the colon: the
account of the fault that a library gives behind it is left out. -/
def SettingsFailure.message : SettingsFailure → Text
  | .unknownPlace => "Could not determine config directory"
  | .noDefaultFilter => "No filter file given and preview.default_filter is not set"
  | .unreadable fault => "Failed to read config: " ++ fault.message
  | .malformed => "Failed to parse config:"
  | .noDirectory fault => "Failed to create config directory: " ++ fault.message
  | .unwritable fault => "Failed to write config: " ++ fault.message
  | .rejected fault => fault.message

/-- Why a command fails. -/
inductive Failure
  /-- The filter does not pass the check. -/
  | invalidFilter (errors warnings : Nat)
  /-- The file with the description of the item does not describe one. -/
  | invalidItem (file : Text)
  /-- The settings are of no use. -/
  | settings (reason : SettingsFailure)
  /-- A file cannot be read. -/
  | unreadable (path : Text) (fault : FileFault)
  /-- The input cannot be read. -/
  | unreadableInput (fault : FileFault)
  deriving Repr, DecidableEq

namespace Failure

/-- The wording of a failure. For a file that describes no item it ends with the colon: the account
of the fault that a library gives behind it is left out. -/
def message : Failure → Text
  | .invalidFilter errors warnings =>
    "filter is invalid: " ++ Text.ofNat errors ++ " error(s), " ++ Text.ofNat warnings ++
      " warning(s)"
  | .invalidItem file => "item error: " ++ file ++ ":"
  | .settings reason => "configuration error: " ++ reason.message
  | .unreadable path fault => "I/O error: failed to read " ++ path ++ ": " ++ fault.message
  | .unreadableInput fault => "I/O error: " ++ fault.message

/-- The code of a failure, for programs. -/
def code : Failure → Text
  | .invalidFilter .. => "INVALID_FILTER"
  | .invalidItem _ => "ITEM_ERROR"
  | .settings _ => "CONFIG_ERROR"
  | .unreadable .. | .unreadableInput _ => "IO_ERROR"

/-- The exit status for a failure. -/
def exitStatus : Failure → Nat
  | .invalidFilter .. | .invalidItem _ => 1
  | .unreadable .. | .unreadableInput _ => 3
  | .settings _ => 5

/-- A failure in JSON. -/
def toJson (f : Failure) : Json :=
  .object [("error", .object [("code", .string f.code), ("message", .string f.message)])]

theorem exitStatus_ne_zero (f : Failure) : f.exitStatus ≠ 0 := by
  cases f <;> simp [exitStatus]

end Failure

end LootFilter
