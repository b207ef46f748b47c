import LootFilter.Program.Run

/-!
# The command line program

The outer layer: it looks at the arguments, the environment, the account and the files that a run
may need, leaves the work to `Surroundings.run`, and puts the outcome into effect.
-/

namespace LootFilter

/-- The entry at a path of the system, if there is one. -/
def entryAt? (path : Text) : IO (Option FileTree.Entry) := do
  try
    let bytes ← IO.FS.readBinFile (String.ofList path)
    return some (.file ((String.fromUTF8? bytes).map String.toList))
  catch e =>
    match e with
    | .inappropriateType _ code _ =>
      return if code = 21 then some .directory else none
    | _ => return none

/-- The path of the system for a location. -/
def systemPath : FileTree.Location → Text
  | ['/'] :: rest => '/' :: Text.joined "/" rest
  | l => Text.joined "/" l

/-- A tree with what stands on the way along a path, even if directories on the way are missing. -/
def observe (tree : FileTree) (path : Text) : IO FileTree := do
  let mut tree := tree
  let mut place := FileTree.origin path
  for name in FileTree.properNames path do
    place := if name = ['.', '.'] then FileTree.above place else place ++ [name]
    if (tree.get? place).isNone then
      if let some entry ← entryAt? (systemPath place) then
        tree := tree.insert place entry
  return tree

/-- The environment variables that matter. -/
def knownVariables : List Text := ["PF_CONFIG", "XDG_CONFIG_HOME", "HOME", "NO_COLOR", "RUST_LOG"]

/-- The values of the environment variables that matter. -/
def observeVariables : IO (List (Text × Text)) := do
  let values ← knownVariables.mapM fun name => do
    let value ← IO.getEnv (String.ofList name)
    return value.map fun v => (name, v.toList)
  return values.filterMap id

/-- The number of the account that a process runs under, in what the system tells about it. -/
def accountNumber? (status : Text) : Option Text :=
  (Text.lines status).findSome? fun line =>
    match Text.words line with
    | name :: number :: _ => if name = "Uid:" then some number else none
    | _ => none

/-- The home directory of the account with some number, in the table of accounts. -/
def homeOfAccount? (accounts number : Text) : Option Text :=
  (Text.lines accounts).findSome? fun line =>
    match line.splitOn ':' with
    | _ :: _ :: n :: _ :: _ :: home :: _ => if n = number then some home else none
    | _ => none

/-- The text of a file of the system, if it can be read. -/
def readSystemFile? (path : String) : IO (Option Text) := do
  try
    return some (← IO.FS.readFile path).toList
  catch _ =>
    return none

/-- The home directory of the account, if the system knows one. -/
def observeAccountHome : IO (Option Text) := do
  let number := (← readSystemFile? "/proc/self/status").bind accountNumber?
  let accounts ← readSystemFile? "/etc/passwd"
  return accounts.bind fun accounts => number.bind (homeOfAccount? accounts)

/-- The paths of the filter and of the description that a command reads. -/
def commandPaths (s : Surroundings) : Option Command → List Text
  | some (.preview filter o) =>
    let settings := s.settings.toOption.getD {}
    (filter.or settings.defaultFilter).toList ++ o.file.toList
  | some (.validate path _) | some (.blocks path) => [path]
  | _ => []

/-- What a run finds. The input is read only if a command asks for it. -/
def observeSurroundings (i : Invocation) : IO Surroundings := do
  let found : Surroundings :=
    { «variables» := ← observeVariables, accountHome := ← observeAccountHome }
  let found := { found with files := ← found.settingsPath.toOption.toList.foldlM observe {} }
  let paths := commandPaths found i.command
  let mut files := found.files
  for path in paths do
    files ← observe files path
  let input ←
    if paths.contains ['-'] then
      let bytes ← (← IO.getStdin).readBinToEnd
      pure ((String.fromUTF8? bytes).map String.toList)
    else pure (some [])
  return { found with files, input }

/-- Makes the directories that a run has made, and writes the files that it has written. The first
entries are the latest ones. -/
def applyChanges (s : Surroundings) (o : Outcome) : IO Unit :=
  for ((_, place), entry) in o.files.entries.reverse do
    if s.files.get? place != some entry then
      let path := String.ofList (systemPath place)
      match entry with
      | .directory => IO.FS.createDir path
      | .file content => IO.FS.writeFile path (String.ofList (content.getD []))

/-- Tells a failure. -/
def reportFailure (f : Flags) (failure : Failure) : IO Unit :=
  IO.eprintln (String.ofList
    (if f.json then failure.toJson.pretty else "Error: " ++ failure.message))

/-- What is told about arguments that run no command. -/
def usageText : UsageFault → String
  | .helpRequested =>
    "Usage: pf [OPTIONS] [COMMAND]\n\nCommands: preview, validate, blocks, config, completions, help"
  | .versionRequested => "pf 0.1.0"
  | .unknownArgument => "error: unexpected argument"
  | .unknownCommand => "error: unrecognized subcommand"
  | .unexpectedValue => "error: unexpected value for a flag"
  | .invalidValue => "error: invalid or missing value"
  | .invalidNumber => "error: invalid number"
  | .missingArgument => "error: a required argument was not provided"
  | .conflict => "error: an argument cannot be used again or with another one"

end LootFilter

open LootFilter

/-- Runs the command that the arguments stand for. -/
def main (arguments : List String) : IO UInt32 := do
  match Invocation.ofArguments (arguments.map String.toList) with
  | .error fault =>
    if fault.exitStatus = 0 then IO.println (usageText fault)
    else IO.eprintln (usageText fault)
    return fault.exitStatus.toUInt32
  | .ok i =>
    let s ← observeSurroundings i
    let o := s.run i
    for line in s.logLines i o do
      IO.eprintln (String.ofList line)
    applyChanges s o
    IO.print (String.ofList o.reply.output)
    if let some failure := o.reply.failure then
      reportFailure i.flags failure
    return o.exitStatus.toUInt32
