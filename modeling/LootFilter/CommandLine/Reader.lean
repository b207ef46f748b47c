import LootFilter.CommandLine.Command
import LootFilter.CommandLine.Grammar
import LootFilter.Number.Literal

/-!
# Reading arguments

The grammars of the commands, and the invocation that a list of arguments stands for. Flags can be
given in front of a command and behind it. Of two faults on different levels the one of the
command below counts.

## Main definitions

* `CommandName` — the tree of command names
* `Invocation.ofArguments` — the invocation that arguments stand for
-/

namespace LootFilter

/-- The program and the commands below it. -/
inductive CommandName
  | program
  | help | preview | validate | blocks | settings | completions
  | settingsHelp | settingsPrint | settingsSet | settingsPath
  deriving Repr, DecidableEq

namespace CommandName

/-- The words that name the commands below. -/
def below : CommandName → List (Text × CommandName)
  | .program =>
    [("preview", .preview), ("p", .preview), ("validate", .validate), ("v", .validate),
      ("blocks", .blocks), ("b", .blocks), ("config", .settings), ("completions", .completions),
      ("help", .help)]
  | .settings =>
    [("show", .settingsPrint), ("set", .settingsSet), ("path", .settingsPath),
      ("help", .settingsHelp)]
  | _ => []

/-- The command below that a word names. -/
def below? (n : CommandName) (word : Text) : Option CommandName := n.below.lookup word

/-- The answer to a request for help on the command that a path of words names. -/
def helpOn (n : CommandName) : List Text → UsageFault
  | [] => .helpRequested
  | word :: rest =>
    match n.below? word with
    | some m => helpOn m rest
    | none => .unknownCommand

end CommandName

/-- What is given on a level of commands: flags, and what is its own. -/
structure Level (α : Type) where
  /-- The flags. -/
  flags : Flags := {}
  /-- What is given besides. -/
  own : α

namespace Level

variable {α β : Type}

/-- The flag `--verbose`. -/
def verbose : Parameter (Level α) :=
  .mark (·.flags.verbose) fun l => { l with flags := { l.flags with verbose := true } }

/-- The flag `--quiet`. -/
def quiet : Parameter (Level α) :=
  .mark (·.flags.quiet) fun l => { l with flags := { l.flags with quiet := true } }

/-- The flag `--json`. -/
def json : Parameter (Level α) :=
  .mark (·.flags.json) fun l => { l with flags := { l.flags with json := true } }

/-- The flag `--no-color`. -/
def noColor : Parameter (Level α) :=
  .mark (·.flags.noColor) fun l => { l with flags := { l.flags with noColor := true } }

/-- The parameter of all levels that has a long name. -/
def long? (name : Text) : Option (Parameter (Level α)) :=
  if name = "verbose" then some verbose
  else if name = "quiet" then some quiet
  else if name = "json" then some json
  else if name = "no-color" then some noColor
  else if name = "help" then some (.request .helpRequested)
  else if name = "version" then some (.request .versionRequested)
  else none

/-- The parameter of all levels that has a letter. -/
def short? : Char → Option (Parameter (Level α))
  | 'v' => some verbose
  | 'q' => some quiet
  | 'h' => some (.request .helpRequested)
  | 'V' => some (.request .versionRequested)
  | _ => none

/-- Takes in a value of the level's own. -/
def single (given : α → Option β) (read : Text → Except UsageFault β) (give : β → α → α) :
    Intake (Level α) :=
  Parameter.single (given ·.own) read fun b l => { l with own := give b l.own }

/-- The grammar of a level without options of its own. -/
def grammar (name : CommandName) (positional : List (Intake (Level α))) : Grammar (Level α) where
  long? := long?
  short? := short?
  positional := positional
  hasCommands := !name.below.isEmpty
  isCommand word := (name.below? word).isSome

/-- Checks that the flags of a level do not exclude each other. -/
def checked (l : Level α) : Except UsageFault (Level α) :=
  if l.flags.quiet && l.flags.verbose then .error .conflict else .ok l

end Level

namespace CommandLine

/-- Any value. -/
def anyText (t : Text) : Except UsageFault Text := .ok t

/-- The path of a file, which is not empty. -/
def path (t : Text) : Except UsageFault Text := if t.isEmpty then .error .invalidValue else .ok t

/-- A number of 32 bits. -/
def word32 (t : Text) : Except UsageFault UInt32 :=
  match Literal.integer? t with
  | some n =>
    if 0 ≤ n ∧ n < UInt32.size then .ok (UInt32.ofNat n.toNat) else .error .invalidNumber
  | none => .error .invalidNumber

/-- The name of a shell. -/
def shell (t : Text) : Except UsageFault Shell :=
  match Shell.ofName? t with
  | some s => .ok s
  | none => .error .invalidValue

/-- A value that has to be given. -/
def needed {α : Type} : Option α → Except UsageFault α
  | some a => .ok a
  | none => .error .missingArgument

/-! ### Commands with a file -/

/-- What is given for a command that takes one value. -/
abbrev OneValue (α : Type) := Level (Option α)

/-- The grammar of a command that takes one value. -/
def oneValue {α : Type} (name : CommandName) (read : Text → Except UsageFault α) :
    Grammar (OneValue α) :=
  Level.grammar name [Level.single id read fun a _ => some a]

/-! ### Preview -/

/-- What is given for a preview. -/
structure PreviewArguments where
  /-- The file with the filter. -/
  filter : Option Text := none
  /-- The item. -/
  item : ItemOptions := {}

/-- The option for a text property. -/
def textOption (p : TextProperty) : Parameter (Level PreviewArguments) :=
  .option (Level.single (fun a => a.item.texts p) anyText
    fun t a => { a with item := a.item.withText p t })

/-- The option for a number property. -/
def numberOption (p : NumberProperty) : Parameter (Level PreviewArguments) :=
  .option (Level.single (fun a => a.item.numbers p) word32
    fun n a => { a with item := a.item.withNumber p n })

/-- The name of the option for a property. -/
def optionName : Property → Text
  | .text .baseType => "base-type"
  | .text .itemClass => "class"
  | .text .rarity => "rarity"
  | .number .areaLevel => "area-level"
  | .number .itemLevel => "item-level"
  | .number .dropLevel => "drop-level"
  | .number .quality => "quality"
  | .number .sockets => "sockets"
  | .number .stackSize => "stack-size"
  | .number .waystoneTier => "waystone-tier"

/-- The option for a property. -/
def propertyOption : Property → Parameter (Level PreviewArguments)
  | .text p => textOption p
  | .number p => numberOption p

/-- The option for the file with the description of the item. -/
def itemFileOption : Parameter (Level PreviewArguments) :=
  .option (Level.single (fun a => a.item.file) path
    fun t a => { a with item := a.item.withFile t })

/-- The parameter of a preview that has a long name. -/
def previewLong? (name : Text) : Option (Parameter (Level PreviewArguments)) :=
  match Property.all.find? fun p => optionName p == name with
  | some p => some (propertyOption p)
  | none => if name = "item" then some itemFileOption else Level.long? name

/-- The parameter of a preview that has a letter. -/
def previewShort? : Char → Option (Parameter (Level PreviewArguments))
  | 'b' => some (textOption .baseType)
  | 'c' => some (textOption .itemClass)
  | 'r' => some (textOption .rarity)
  | c => Level.short? c

/-- The grammar of a preview. -/
def previewGrammar : Grammar (Level PreviewArguments) where
  long? := previewLong?
  short? := previewShort?
  positional := [Level.single (·.filter) path fun t a => { a with filter := some t }]

/-! ### Validate -/

/-- What is given for a check. -/
structure ValidateArguments where
  /-- The file with the filter. -/
  filter : Option Text := none
  /-- Whether warnings count as errors. -/
  strict : Bool := false

/-- The flag `--strict`. -/
def strictFlag : Parameter (Level ValidateArguments) :=
  .mark (·.own.strict) fun l => { l with own := { l.own with strict := true } }

/-- The grammar of a check. -/
def validateGrammar : Grammar (Level ValidateArguments) where
  long? name := if name = "strict" then some strictFlag else Level.long? name
  short? := Level.short?
  positional := [Level.single (·.filter) path fun t a => { a with filter := some t }]

/-! ### Settings -/

/-- What is given to set a setting. -/
structure SetArguments where
  /-- The key. -/
  key : Option Text := none
  /-- The value. -/
  value : Option Text := none

/-- The grammar of setting a setting. -/
def setGrammar : Grammar (Level SetArguments) :=
  Level.grammar .settingsSet
    [Level.single (·.key) anyText fun t a => { a with key := some t },
      Level.single (·.value) anyText fun t a => { a with value := some t }]

/-! ### Reading -/

/-- What is given on a level without commands below. -/
def lastLevel {α : Type} (g : Grammar (Level α)) (own : α) (arguments : List Text) :
    Except UsageFault (Level α) := do
  let (given, _) ← g.scan (g.start { own }) arguments
  given.checked

/-- Reads the arguments of a command below the settings. -/
def readSettingsCommand (name : CommandName) (arguments : List Text) :
    Except UsageFault (Flags × SettingsCommand) :=
  match name with
  | .settingsSet => do
    let given ← lastLevel setGrammar {} arguments
    let key ← needed given.own.key
    let value ← needed given.own.value
    return (given.flags, .set key value)
  | .settingsPrint => do
    let given ← lastLevel (Level.grammar name []) () arguments
    return (given.flags, .print)
  | .settingsPath => do
    let given ← lastLevel (Level.grammar name []) () arguments
    return (given.flags, .path)
  | _ => .error (CommandName.settings.helpOn arguments)

/-- Reads the arguments of a level, and those of the command below it by `readBelow`. -/
def readLevels {α : Type} (name : CommandName)
    (readBelow : CommandName → List Text → Except UsageFault (Flags × α)) (arguments : List Text) :
    Except UsageFault (Flags × Option α) := do
  let g : Grammar (Level Unit) := Level.grammar name []
  let (given, rest) ← g.scan (g.start { own := () }) arguments
  match rest.bind fun (word, rest) => (name.below? word).map (·, rest) with
  | some (command, rest) =>
    let (flags, a) ← readBelow command rest
    let given ← given.checked
    return (given.flags.union flags, some a)
  | none =>
    let given ← given.checked
    return (given.flags, none)

/-- Reads the arguments of a command. -/
def readCommand (name : CommandName) (arguments : List Text) :
    Except UsageFault (Flags × Command) :=
  match name with
  | .preview => do
    let given ← lastLevel previewGrammar {} arguments
    return (given.flags, .preview given.own.filter given.own.item)
  | .validate => do
    let given ← lastLevel validateGrammar {} arguments
    return (given.flags, .validate (← needed given.own.filter) given.own.strict)
  | .blocks => do
    let given ← lastLevel (oneValue name path) none arguments
    return (given.flags, .blocks (← needed given.own))
  | .completions => do
    let given ← lastLevel (oneValue name shell) none arguments
    return (given.flags, .completions (← needed given.own))
  | .settings => do
    let (flags, command) ← readLevels name readSettingsCommand arguments
    return (flags, .settings command)
  | _ => .error (CommandName.program.helpOn arguments)

end CommandLine

/-- The invocation that arguments stand for. -/
def Invocation.ofArguments (arguments : List Text) : Except UsageFault Invocation := do
  let (flags, command) ← CommandLine.readLevels .program CommandLine.readCommand arguments
  return ⟨flags, command⟩

end LootFilter
