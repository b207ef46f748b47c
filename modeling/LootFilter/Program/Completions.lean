import LootFilter.CommandLine.Reader
import LootFilter.Text.Lines

/-!
# Completions

Scripts that teach a shell the names of the commands.

## Main definitions

* `Shell.completions` — the script for a shell
-/

namespace LootFilter

namespace Shell

/-- The name of the program. -/
def programName : Text := "pf"

/-- The names of the commands, with a space between neighbours. -/
def commandWords : Text := Text.joined " " (CommandName.program.below.map (·.1))

/-- The names of the commands in single quotes, with commas between them. -/
def commandList : Text :=
  Text.joined ", " (CommandName.program.below.map fun c => '\'' :: c.1 ++ ['\''])

/-- The script for a shell. -/
def completions : Shell → Text
  | .bash => Text.unlines ["complete -W '" ++ commandWords ++ "' " ++ programName]
  | .zsh =>
    Text.unlines ["#compdef " ++ programName, "_arguments '1:command:(" ++ commandWords ++ ")'"]
  | .fish => Text.unlines ["complete -c " ++ programName ++ " -f -a '" ++ commandWords ++ "'"]
  | .powershell =>
    Text.unlines ["Register-ArgumentCompleter -Native -CommandName " ++ programName ++
      " -ScriptBlock \x7b " ++ commandList ++ " \x7d"]

end Shell

end LootFilter
