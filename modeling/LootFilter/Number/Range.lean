import LootFilter.Number.Shortest

/-!
# The range of double precision

A decimal number is beyond the range of double precision if it is at least as large as the middle
between the largest double and the next power of two: from there on it would be rounded to
infinity. The number is either taken exactly, or computed as a product of two doubles: its leading
digits and a power of ten.

## Main definitions

* `isBeyondDouble` — whether `digits * 10 ^ exponent` is beyond the range
* `productIsBeyondDouble` — whether the product of two doubles that stands for it is

## Main results

* `nearestDouble_of_lt` — numbers below `2 ^ 53` are doubles
-/

namespace LootFilter

/-- The least number that is rounded to infinity. -/
def doubleLimit : Nat := 1 <<< 1024 - 1 <<< 970

/-- Whether the number `digits * 10 ^ exponent` is beyond the range of double precision. The limit
has 309 digits, so that most numbers are told apart by their count of digits. -/
def isBeyondDouble (digits : Nat) (exponent : Int) : Bool :=
  let magnitude : Int := (Text.ofNat digits).length + exponent
  if digits = 0 ∨ magnitude < 300 then false
  else if 320 < magnitude then true
  else doubleLimit * Nat.pow 10 (-exponent).toNat ≤ digits * Nat.pow 10 exponent.toNat

/-- The nearest number with a significand of 53 bits, a tie going to the even significand. -/
def nearestDouble (n : Nat) : Nat :=
  let unit := 1 <<< (n.log2 - 52)
  roundHalfEven n unit * unit

theorem nearestDouble_of_lt {n : Nat} (h : n < 1 <<< 53) : nearestDouble n = n := by
  have unit : 1 <<< (n.log2 - 52) = 1 := by
    by_cases hn : n = 0
    · subst hn; decide
    · have hlt : n.log2 < 53 := (Nat.log2_lt hn).2 (by rwa [Nat.one_shiftLeft] at h)
      rw [Nat.sub_eq_zero_of_le (by omega), Nat.shiftLeft_zero]
  simp [nearestDouble, unit, roundHalfEven, Nat.mod_one, compare, compareOfLessAndEq]

/-- The digits from the left as long as they fit into an unsigned word of 64 bits, behind a number
read before: their value, and the count of the digits that are left out. -/
def leadingWord (n : Nat) : Text → Nat × Nat
  | [] => (n, 0)
  | d :: ds =>
    let next := 10 * n + (d.toNat - '0'.toNat)
    if next < 1 <<< 64 then leadingWord next ds else (n, ds.length + 1)

/-- Whether the product of two doubles, the leading digits and a power of ten, is beyond the range
of double precision. There is no double for powers of ten with an exponent above 308. -/
def productIsBeyondDouble (digits : Text) (exponent : Int) : Bool :=
  let (word, leftOut) := leadingWord 0 digits
  let power := exponent + leftOut
  if word = 0 ∨ power < 0 then false
  else if 308 < power then true
  else doubleLimit ≤ nearestDouble word * nearestDouble (Nat.pow 10 power.toNat)

end LootFilter
