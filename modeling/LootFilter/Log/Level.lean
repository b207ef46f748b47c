import LootFilter.Number.Literal
import LootFilter.Text.Lowercase

/-!
# Log levels

How important the events are that a run tells on the side, and the words by which settings speak of
it.

## Main definitions

* `Log.Level`, `Log.Threshold` — how important an event is, and which levels are told
* `Log.thresholdOfWord?` — the threshold that a word stands for

## Main results

* `Log.thresholdOfWord?_name`, `Log.thresholdOfWord?_number` — a level is found by its name and by
  its number
-/

namespace LootFilter.Log

/-- How important an event is. -/
inductive Level
  | trace | debug | info | warn | error
  deriving Repr, DecidableEq

namespace Level

/-- The levels from the least to the most important one. -/
def all : List Level := [.trace, .debug, .info, .warn, .error]

/-- The name of a level in a setting. -/
def name : Level → Text
  | .trace => "trace"
  | .debug => "debug"
  | .info => "info"
  | .warn => "warn"
  | .error => "error"

/-- The name of a level in front of a line. -/
def label : Level → Text
  | .trace => "TRACE"
  | .debug => "DEBUG"
  | .info => " INFO"
  | .warn => " WARN"
  | .error => "ERROR"

/-- The place of a level among the levels. -/
def rank : Level → Nat
  | .trace => 0
  | .debug => 1
  | .info => 2
  | .warn => 3
  | .error => 4

/-- The number of a level in a setting: more events are told for a greater number. -/
def number (l : Level) : Nat := 5 - l.rank

end Level

/-- The least important level that is told; nothing may be told at all. -/
abbrev Threshold := Option Level

/-- Whether events of a level are told. -/
def Threshold.admits (t : Threshold) (l : Level) : Bool := t.any fun least => least.rank ≤ l.rank

/-- The threshold with a number; zero stands for nothing at all. -/
def thresholdOfNumber? (n : Nat) : Option Threshold :=
  if n = 0 then some none else (Level.all.find? fun l => l.number == n).map some

/-- The threshold with a name, in letters of either case. -/
def thresholdOfName? (word : Text) : Option Threshold :=
  if Text.sameIgnoringAsciiCase word "off" then some none
  else (Level.all.find? fun l => Text.sameIgnoringAsciiCase word l.name).map some

/-- The threshold that a word stands for, by its name or by its number. A number may have a plus
sign and leading zeros. -/
def thresholdOfWord? (word : Text) : Option Threshold :=
  let digits := if word.head? = some '+' then word.tail else word
  match Literal.natural? digits with
  | some n => thresholdOfNumber? n
  | none => thresholdOfName? word

theorem thresholdOfWord?_name (l : Level) : thresholdOfWord? l.name = some (some l) := by
  cases l <;> decide

theorem thresholdOfWord?_number (l : Level) :
    thresholdOfWord? (Text.ofNat l.number) = some (some l) := by
  cases l <;> decide

end LootFilter.Log
