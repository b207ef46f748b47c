import LootFilter.Text.Basic

/-!
# Arguments

Arguments are taken in from left to right. What begins with a hyphen names a flag or an option; an
option takes its value from behind an equals sign, from the rest of a cluster of letters, or from
the next argument. All else is a word: the name of a command below, or the value of the next
positional parameter. Behind a double hyphen all arguments are values.

A value that stands alone is taken in only when the next parameter is, or at the end. So an unknown
argument is reported in preference to a bad value just in front of it.

## Main definitions

* `UsageFault` — why arguments are not understood, or answered without running a command
* `Parameter`, `Grammar` — what the names on a level of commands stand for
* `Grammar.scan` — what is given on a level, and the command below with its arguments

## Main results

* `Grammar.scan_command` — a command below ends the level
-/

namespace LootFilter

/-- Why arguments are not understood, or answered without running a command. -/
inductive UsageFault
  /-- The help text is asked for. -/
  | helpRequested
  /-- The version is asked for. -/
  | versionRequested
  /-- A flag, an option or a positional value that there is no place for. -/
  | unknownArgument
  /-- A word that names no command. -/
  | unknownCommand
  /-- A flag with a value. -/
  | unexpectedValue
  /-- A value that is missing, empty, or not one of those allowed. -/
  | invalidValue
  /-- A value that is not a number, or not in range. -/
  | invalidNumber
  /-- A positional value is missing. -/
  | missingArgument
  /-- Arguments that exclude each other, such as a flag given twice. -/
  | conflict
  deriving Repr, DecidableEq

/-- The exit status for arguments that run no command: a request is no failure. -/
def UsageFault.exitStatus : UsageFault → Nat
  | .helpRequested | .versionRequested => 0
  | _ => 2

/-- Takes a value into what has been given. -/
abbrev Intake (σ : Type) := Text → σ → Except UsageFault σ

/-- What a name stands for. -/
inductive Parameter (σ : Type)
  /-- A flag, which stands alone. -/
  | flag (take : σ → Except UsageFault σ)
  /-- An option, which has a value. -/
  | option (take : Intake σ)

namespace Parameter

variable {σ α : Type}

/-- A flag that can be given once. -/
def mark (isGiven : σ → Bool) (give : σ → σ) : Parameter σ :=
  .flag fun s => if isGiven s then .error .conflict else .ok (give s)

/-- A request, which is answered as soon as it is met. -/
def request (answer : UsageFault) : Parameter σ := .flag fun _ => .error answer

/-- Takes in the value of an option that can be given once. -/
def single (given : σ → Option α) (read : Text → Except UsageFault α) (give : α → σ → σ) :
    Intake σ :=
  fun t s => if (given s).isSome then .error .conflict else (read t).map fun a => give a s

end Parameter

/-- The parameters on a level of commands. -/
structure Grammar (σ : Type) where
  /-- The parameter with a name of several letters. -/
  long? : Text → Option (Parameter σ)
  /-- The parameter with a name of one letter. -/
  short? : Char → Option (Parameter σ)
  /-- The positional parameters. -/
  positional : List (Intake σ) := []
  /-- Whether there are commands below. -/
  hasCommands : Bool := false
  /-- Whether a word names a command below. -/
  isCommand : Text → Bool := fun _ => false

/-- A parameter that has been met and not been taken in. -/
inductive Pending (σ : Type)
  /-- There is none. -/
  | nothing
  /-- The next argument may be its value. -/
  | awaiting (take : Intake σ)
  /-- It has its value. -/
  | holding (take : Intake σ) (value : Text)

/-- How far the arguments of a level have been taken in. -/
structure Progress (σ : Type) where
  /-- What has been given. -/
  given : σ
  /-- The parameter that has been met last. -/
  pending : Pending σ := .nothing
  /-- The positional parameters without a value. -/
  positional : List (Intake σ)
  /-- Whether the double hyphen has been met. -/
  pastSeparator : Bool := false

/-- What an argument looks like. -/
inductive ArgumentForm
  /-- `--` -/
  | separator
  /-- `--name` or `--name=value` -/
  | long (name : Text) (value : Option Text)
  /-- `-letters` -/
  | short (letters : Text)
  /-- Anything else; a single hyphen is a word. -/
  | word
  deriving Repr, DecidableEq

/-- The two parts of a text around the first occurrence of a character. -/
def Text.splitAtFirst? (c : Char) : Text → Option (Text × Text)
  | [] => none
  | d :: rest =>
    if d = c then some ([], rest)
    else (splitAtFirst? c rest).map fun (before, after) => (d :: before, after)

/-- What an argument looks like. -/
def ArgumentForm.ofText : Text → ArgumentForm
  | ['-', '-'] => .separator
  | '-' :: '-' :: rest =>
    match Text.splitAtFirst? '=' rest with
    | some (name, value) => .long name (some value)
    | none => .long rest none
  | '-' :: c :: rest => .short (c :: rest)
  | _ => .word

namespace Progress

variable {σ : Type}

/-- Takes in the parameter that has been met last. -/
def settle (p : Progress σ) : Except UsageFault (Progress σ) :=
  match p.pending with
  | .nothing => .ok p
  | .awaiting _ => .error .invalidValue
  | .holding take value =>
    (take value p.given).map fun given => { p with given, pending := .nothing }

/-- Takes in the parameter that has been met last, and then a flag. -/
def takeFlag (p : Progress σ) (take : σ → Except UsageFault σ) :
    Except UsageFault (Progress σ) := do
  let p ← p.settle
  let given ← take p.given
  return { p with given }

/-- Takes in the parameter that has been met last, and then waits for a value. -/
def await (p : Progress σ) (take : Intake σ) : Except UsageFault (Progress σ) := do
  let p ← p.settle
  return { p with pending := .awaiting take }

/-- Whether the next argument may be the value of an option. -/
def isAwaiting (p : Progress σ) : Bool :=
  match p.pending with
  | .awaiting _ => true
  | _ => false

end Progress

namespace Grammar

variable {σ : Type}

/-- Takes in a word: the value of an option that waits for it, or of the next positional
parameter. -/
def takeWord (g : Grammar σ) (p : Progress σ) (word : Text) : Except UsageFault (Progress σ) :=
  match p.pastSeparator, p.pending with
  | false, .awaiting take => .ok { p with pending := .holding take word }
  | _, _ =>
    match p.positional with
    | take :: positional => do
      let p ← p.settle
      return { p with pending := .holding take word, positional }
    | [] =>
      if g.hasCommands && !(p.pastSeparator && g.isCommand word) then .error .unknownCommand
      else .error .unknownArgument

/-- Takes in a parameter by its long name. -/
def takeLong (g : Grammar σ) (p : Progress σ) (name : Text) (value : Option Text) :
    Except UsageFault (Progress σ) :=
  match g.long? name, value with
  | none, _ => .error .unknownArgument
  | some (.flag _), some _ => .error .unexpectedValue
  | some (.flag take), none => p.takeFlag take
  | some (.option take), some v => p.takeFlag (take v)
  | some (.option take), none => p.await take

/-- Takes in parameters by their letters. What follows the letter of an option is its value. -/
def takeShort (g : Grammar σ) (p : Progress σ) : Text → Except UsageFault (Progress σ)
  | [] => .ok p
  | c :: rest =>
    match g.short? c with
    | none => .error .unknownArgument
    | some (.flag take) => do
      let p ← p.takeFlag take
      takeShort g p rest
    | some (.option take) =>
      match rest with
      | [] => p.await take
      | '=' :: value => p.takeFlag (take value)
      | value => p.takeFlag (take value)

/-- Takes in an argument that is no command. -/
def take (g : Grammar σ) (p : Progress σ) (argument : Text) : Except UsageFault (Progress σ) :=
  if p.pastSeparator then g.takeWord p argument
  else
    match ArgumentForm.ofText argument with
    | .separator => .ok { p with pastSeparator := true }
    | .long name value => g.takeLong p name value
    | .short letters => g.takeShort p letters
    | .word => g.takeWord p argument

/-- Takes in arguments up to a command below: what has been given, and the command with its
arguments. -/
def scan (g : Grammar σ) (p : Progress σ) :
    List Text → Except UsageFault (σ × Option (Text × List Text))
  | [] => p.settle.map fun p => (p.given, none)
  | argument :: rest =>
    if !p.pastSeparator && !p.isAwaiting && g.isCommand argument then
      .ok (p.given, some (argument, rest))
    else do
      let p ← g.take p argument
      scan g p rest

/-- The progress before the first argument. -/
def start (g : Grammar σ) (given : σ) : Progress σ := { given, positional := g.positional }

/-- A command below ends the level. -/
theorem scan_command {g : Grammar σ} {p : Progress σ} {word : Text} (rest : List Text)
    (h : g.isCommand word = true) (hs : p.pastSeparator = false) (ha : p.isAwaiting = false) :
    g.scan p (word :: rest) = .ok (p.given, some (word, rest)) := by
  simp [scan, h, hs, ha]

end Grammar

end LootFilter
