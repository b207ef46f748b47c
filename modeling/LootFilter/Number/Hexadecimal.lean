import LootFilter.Text.Basic

/-!
# Hexadecimal numbers

Numbers of a given count of hexadecimal digits, as escapes in texts write them.

## Main definitions

* `Hexadecimal.digit?` — the value of a digit of either case
* `Hexadecimal.number?` — the value of several digits
* `Hexadecimal.character?` — the character with a number
-/

namespace LootFilter.Hexadecimal

/-- The value of a digit of either case. -/
def digit? (c : Char) : Option Nat :=
  if c.isDigit then some (c.toNat - '0'.toNat)
  else if 'a' ≤ c ∧ c ≤ 'f' then some (c.toNat - 'a'.toNat + 10)
  else if 'A' ≤ c ∧ c ≤ 'F' then some (c.toNat - 'A'.toNat + 10)
  else none

/-- The value of several digits, the first being the highest. -/
def number? (digits : Text) : Option Nat :=
  (digits.mapM digit?).map fun values => values.foldl (fun n d => 16 * n + d) 0

/-- The character with a number, unless the number is half of a surrogate pair or too large. -/
def character? (n : Nat) : Option Char := if n.isValidChar then some (Char.ofNat n) else none

end LootFilter.Hexadecimal
