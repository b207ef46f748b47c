import LootFilter.Text.Basic

/-!
# Quotients in double precision

A quotient of two numbers is computed in double precision and written with the fewest decimal
digits that read back as the same double. Both steps are exact integer arithmetic: the quotient is
rounded once, to nearest with ties to the even significand, and the digits are found by trying one
digit, two digits, and so on.

A double with a significand of 53 bits stands for the real numbers up to halfway to its two
neighbours; the ends belong to it if the significand is even. Below a power of two the neighbour
is only half as far away.

## Main definitions

* `Binary` — a positive double: a significand and a power of two
* `Binary.ofQuotient` — the double nearest to a quotient
* `Binary.readsBack` — whether a decimal stands for a double
* `Binary.shortest` — the decimal with the fewest digits that reads back
* `Decimal.positional` — a decimal written without an exponent

## Main results

* `Binary.readsBack_of_hit` — a digit string found by the search reads back
-/

namespace LootFilter

/-- A positive double: the number `significand * 2 ^ exponent`. -/
structure Binary where
  /-- The significand, of 53 bits. -/
  significand : Nat
  /-- The power of two. -/
  exponent : Int
  deriving Repr, DecidableEq

/-- A decimal: the number `digits * 10 ^ exponent`. -/
structure Decimal where
  /-- The digits, read as a number. -/
  digits : Nat
  /-- The power of ten of the last digit. -/
  exponent : Int
  deriving Repr, DecidableEq

/-- The quotient of two numbers rounded to the nearest integer, a half to the even neighbour. -/
def roundHalfEven (numerator denominator : Nat) : Nat :=
  let quotient := numerator / denominator
  match compare (2 * (numerator % denominator)) denominator with
  | .lt => quotient
  | .gt => quotient + 1
  | .eq => if quotient % 2 = 0 then quotient else quotient + 1

namespace Binary

/-- The double with a significand of 53 bits, or of 54 bits if rounding led to a power of two. -/
def normalized (significand : Nat) (exponent : Int) : Binary :=
  if significand < 1 <<< 53 then ⟨significand, exponent⟩ else ⟨significand / 2, exponent + 1⟩

/-- The significand of a quotient for a given power of two. -/
def significandAt (numerator denominator : Nat) (exponent : Int) : Nat :=
  roundHalfEven (numerator <<< (-exponent).toNat) (denominator <<< exponent.toNat)

/-- The double nearest to the quotient of two positive numbers. -/
def ofQuotient (numerator denominator : Nat) : Binary :=
  let low : Int := (numerator.log2 : Int) - denominator.log2 - 53
  let fits := numerator <<< (-low).toNat < denominator <<< (low.toNat + 53)
  let exponent := if fits then low else low + 1
  normalized (significandAt numerator denominator exponent) exponent

/-- Compares a decimal with a multiple of a power of two. -/
def compareDecimal (d : Decimal) (multiple : Nat) (exponent : Int) : Ordering :=
  compare ((d.digits * Nat.pow 10 d.exponent.toNat) <<< (-exponent).toNat)
    ((multiple * Nat.pow 10 (-d.exponent).toNat) <<< exponent.toNat)

/-- Four times the lower end of the reals that a double stands for, in units of its last place. -/
def lowerEnd (b : Binary) : Nat :=
  if b.significand = 1 <<< 52 then 4 * b.significand - 1 else 4 * b.significand - 2

/-- Whether a decimal lies among the reals that a double stands for. -/
def readsBack (b : Binary) (d : Decimal) : Bool :=
  let fromBelow := compareDecimal d b.lowerEnd (b.exponent - 2)
  let fromAbove := compareDecimal d (4 * b.significand + 2) (b.exponent - 2)
  let endsBelong := b.significand % 2 == 0
  (fromBelow == .gt || (endsBelong && fromBelow == .eq)) &&
    (fromAbove == .lt || (endsBelong && fromAbove == .eq))

/-- The number of digits in front of the point; zero or negative for a number below one tenth or
one. A number below `10 ^ n` and not below `10 ^ (n - 1)` has magnitude `n`. -/
def magnitude (b : Binary) : Int :=
  let above := b.significand <<< b.exponent.toNat
  let below := 1 <<< (-b.exponent).toNat
  if below ≤ above then ((Text.ofNat (above / below)).length : Int)
  else
    let zeros := (Text.ofNat (below / above)).length - 1
    if above * Nat.pow 10 zeros = below then 1 - zeros else -zeros

/-- Of the two neighbours of a double on a decimal grid, the one that reads back; if both do, the
closer one, and in the middle the greater one. -/
def hit? (b : Binary) (grid : Int) : Option Decimal :=
  let above := b.significand <<< b.exponent.toNat * Nat.pow 10 (-grid).toNat
  let below := 1 <<< (-b.exponent).toNat * Nat.pow 10 grid.toNat
  let lower : Decimal := ⟨above / below, grid⟩
  let upper : Decimal := ⟨above / below + 1, grid⟩
  match b.readsBack lower, b.readsBack upper with
  | true, true => some (if 2 * (above % below) < below then lower else upper)
  | true, false => some lower
  | false, true => some upper
  | false, false => none

/-- The double itself as a decimal. -/
def exactDecimal (b : Binary) : Decimal :=
  if 0 ≤ b.exponent then ⟨b.significand <<< b.exponent.toNat, 0⟩
  else ⟨b.significand * Nat.pow 5 (-b.exponent).toNat, b.exponent⟩

/-- The decimal with the fewest digits that reads back. Seventeen digits are enough. -/
def shortest (b : Binary) : Decimal :=
  ((List.range 17).findSome? fun (n : Nat) => b.hit? (b.magnitude - (n + 1))).getD b.exactDecimal

/-- A decimal found on a grid reads back. -/
theorem readsBack_of_hit {b : Binary} {grid : Int} {d : Decimal} (h : b.hit? grid = some d) :
    b.readsBack d = true := by
  unfold hit? at h
  simp only at h
  split at h
  · split at h <;> simp_all
  all_goals simp_all

end Binary

namespace Decimal

/-- The digits without the zeros at their end; `fuel` bounds their number. -/
def dropZeros : Nat → Decimal → Decimal
  | 0, d => d
  | fuel + 1, d =>
    if d.digits % 10 = 0 ∧ d.digits ≠ 0 then dropZeros fuel ⟨d.digits / 10, d.exponent + 1⟩ else d

/-- The decimal without zeros at the end of its digits. -/
def normalized (d : Decimal) : Decimal := dropZeros d.digits.log2 d

/-- The decimal in positional notation, with a point only if a digit follows it. -/
def positional (d : Decimal) : Text :=
  let digits := Text.ofNat d.digits
  if 0 ≤ d.exponent then digits ++ List.replicate d.exponent.toNat '0'
  else
    let places := (-d.exponent).toNat
    if places < digits.length then
      digits.take (digits.length - places) ++ '.' :: digits.drop (digits.length - places)
    else "0." ++ List.replicate (places - digits.length) '0' ++ digits

end Decimal

/-- An integer as the nearest double, divided by a positive number in double precision, in the
shortest positional notation. -/
def quotientText (numerator : Int) (denominator : Nat) : Text :=
  if numerator = 0 then ['0']
  else
    let whole := Binary.ofQuotient numerator.natAbs 1
    let quotient := Binary.ofQuotient (whole.significand <<< whole.exponent.toNat)
      (denominator <<< (-whole.exponent).toNat)
    (if numerator < 0 then ['-'] else []) ++ quotient.shortest.normalized.positional

end LootFilter
