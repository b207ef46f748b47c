import LootFilter.Item.Basic
import LootFilter.Log.Level

/-!
# Commands

What a user can ask the program to do.

## Main definitions

* `Flags` — what holds for all commands
* `ItemOptions` — the item to preview, and `ItemOptions.applyTo`
* `Command`, `Invocation` — the commands, and a command with its flags
-/

namespace LootFilter

/-- The flags that all commands understand. -/
structure Flags where
  /-- Tell more on the side. -/
  verbose : Bool := false
  /-- Tell errors only. -/
  quiet : Bool := false
  /-- Print JSON. -/
  json : Bool := false
  /-- Print without inks. -/
  noColor : Bool := false
  deriving Repr, DecidableEq

namespace Flags

/-- The flags that are given on one level of commands or on another. -/
def union (f g : Flags) : Flags :=
  ⟨f.verbose || g.verbose, f.quiet || g.quiet, f.json || g.json, f.noColor || g.noColor⟩

/-- Which events are told if no setting says so. -/
def threshold (f : Flags) : Log.Level :=
  if f.verbose then .debug else if f.quiet then .error else .warn

end Flags

/-- The description of the item to preview: a file, and properties that replace those of the
file. -/
structure ItemOptions where
  /-- The file with a description in JSON. -/
  file : Option Text := none
  /-- The texts that are given. -/
  texts : TextProperty → Option Text := fun _ => none
  /-- The numbers that are given. -/
  numbers : NumberProperty → Option UInt32 := fun _ => none

namespace ItemOptions

/-- The options with the file of a description. -/
def withFile (o : ItemOptions) (path : Text) : ItemOptions := { o with file := some path }

/-- The options with one more text. -/
def withText (o : ItemOptions) (p : TextProperty) (t : Text) : ItemOptions :=
  { o with texts := fun q => if q = p then some t else o.texts q }

/-- The options with one more number. -/
def withNumber (o : ItemOptions) (p : NumberProperty) (n : UInt32) : ItemOptions :=
  { o with numbers := fun q => if q = p then some n else o.numbers q }

/-- An item with the properties that are given in place of its own. -/
def applyTo (o : ItemOptions) (i : Item) : Item where
  baseType := (o.texts .baseType).getD i.baseType
  itemClass := (o.texts .itemClass).or i.itemClass
  rarity := (o.texts .rarity).or i.rarity
  numbers p := (o.numbers p).or (i.numbers p)

theorem applyTo_none (i : Item) : applyTo {} i = i := by
  apply Item.ext_numbers <;> simp [applyTo]

end ItemOptions

/-- The shells that completions can be written for. -/
inductive Shell
  | bash | zsh | fish | powershell
  deriving Repr, DecidableEq

namespace Shell

/-- The shells. -/
def all : List Shell := [.bash, .zsh, .fish, .powershell]

/-- The name of a shell. -/
def name : Shell → Text
  | .bash => "bash"
  | .zsh => "zsh"
  | .fish => "fish"
  | .powershell => "powershell"

/-- The shell that a word names. -/
def ofName? (word : Text) : Option Shell := all.find? fun s => s.name == word

end Shell

/-- What can be done with the settings. -/
inductive SettingsCommand
  /-- Print them. -/
  | print
  /-- Give a value to one of them. -/
  | set (key value : Text)
  /-- Print the path of their file. -/
  | path
  deriving Repr, DecidableEq

/-- What the program can do. -/
inductive Command
  /-- Show how a filter displays an item. -/
  | preview (filter : Option Text) (item : ItemOptions)
  /-- Check a filter. -/
  | validate (filter : Text) (strict : Bool)
  /-- List the blocks of a filter. -/
  | blocks (filter : Text)
  /-- Show or change the settings. -/
  | settings (command : Option SettingsCommand)
  /-- Write completions for a shell. -/
  | completions (shell : Shell)

/-- A command, which may be missing, and its flags. -/
structure Invocation where
  /-- The flags. -/
  flags : Flags
  /-- The command. -/
  command : Option Command

end LootFilter
