import LootFilter.Number.Hexadecimal
import LootFilter.Number.Literal
import LootFilter.Number.Range
import LootFilter.Toml.Basic

/-!
# Numbers and dates of TOML

The values that are written as one word: truth values, integers in four bases, fractional numbers,
dates and times. Underscores may stand between digits, and a decimal number has no leading zeros.

## Main definitions

* `Toml.integer?`, `Toml.isFloat`, `Toml.isDateTime` — the kinds of words
* `Toml.ofWord?` — the value of a word
-/

namespace LootFilter.Toml

/-- The parts of a text between occurrences of a character. -/
def parts (c : Char) (t : Text) : List Text := t.splitOn c

/-- Digits without the single underscores between them. -/
def ungrouped? (isDigit : Char → Bool) (t : Text) : Option Text :=
  let groups := parts '_' t
  if groups.all fun g => !g.isEmpty && g.all isDigit then some groups.flatten else none

/-- A sign, if there is one, and the rest of a text. -/
def splitSign : Text → Bool × Text
  | '-' :: rest => (true, rest)
  | '+' :: rest => (false, rest)
  | rest => (false, rest)

/-- Decimal digits without leading zeros. -/
def decimalDigits? (t : Text) : Option Text :=
  (ungrouped? (·.isDigit) t).filter fun digits => digits.length = 1 || digits.head? != some '0'

/-- The number that digits of a base write. -/
def inBase? (base : Nat) (t : Text) : Option Int :=
  let isDigit c := (Hexadecimal.digit? c).any (· < base)
  (ungrouped? isDigit t).map fun digits =>
    ((digits.filterMap Hexadecimal.digit?).foldl (fun n d => base * n + d) 0 : Nat)

/-- The integer that a word writes, if it fits into 64 bits. -/
def integer? (word : Text) : Option Int :=
  let n :=
    match word with
    | '0' :: 'x' :: digits => inBase? 16 digits
    | '0' :: 'o' :: digits => inBase? 8 digits
    | '0' :: 'b' :: digits => inBase? 2 digits
    | word =>
      let (negative, digits) := splitSign word
      (decimalDigits? digits).map fun digits =>
        let n : Int := Nat.ofDigitChars 10 digits 0
        if negative then -n else n
  n.filter Literal.isWord

/-- The exponent that a text writes behind the letter. -/
def exponent? (t : Text) : Option Int :=
  let (negative, digits) := splitSign t
  (ungrouped? (·.isDigit) digits).map fun digits =>
    let n : Int := Nat.ofDigitChars 10 digits 0
    if negative then -n else n

/-- Whether a number can be kept: a positive one that is beyond the range of double precision
cannot. -/
def isKept (negative : Bool) (whole places : Text) (exponent : Int) : Bool :=
  negative || !isBeyondDouble (Nat.ofDigitChars 10 (whole ++ places) 0) (exponent - places.length)

/-- Whether a word without its sign writes a number with a fraction, an exponent, or both. -/
def isUnsignedFloat (negative : Bool) (word : Text) : Bool :=
  let mantissa := word.takeWhile fun c => c != 'e' && c != 'E'
  let hasExponent := mantissa.length < word.length
  let exponent := if hasExponent then exponent? (word.drop (mantissa.length + 1)) else some 0
  match parts '.' mantissa, exponent with
  | [whole], some e => hasExponent && (decimalDigits? whole).any (isKept negative · [] e)
  | [whole, places], some e =>
    match decimalDigits? whole, ungrouped? (·.isDigit) places with
    | some whole, some places => isKept negative whole places e
    | _, _ => false
  | _, _ => false

/-- Whether a word writes a number with a fraction or an exponent, an infinite one, or none. -/
def isFloat (word : Text) : Bool :=
  let (negative, rest) := splitSign word
  rest = ("inf" : Text) ∨ rest = ("nan" : Text) ∨ isUnsignedFloat negative rest

/-- The number that two digits write. -/
def twoDigits? (a b : Char) : Option Nat := Literal.natural? [a, b]

/-- The number of days of a month. -/
def daysOfMonth (year month : Nat) : Nat :=
  if month = 2 then
    if year % 4 = 0 ∧ (year % 100 ≠ 0 ∨ year % 400 = 0) then 29 else 28
  else if [4, 6, 9, 11].contains month then 30
  else 31

/-- Whether a date exists. -/
def isDay (year month day : Option Nat) : Bool :=
  match year, month, day with
  | some y, some m, some d => 1 ≤ m && m ≤ 12 && 1 ≤ d && d ≤ daysOfMonth y m
  | _, _, _ => false

/-- What follows the date at the start of a text. -/
def afterDate? : Text → Option Text
  | a :: b :: c :: d :: '-' :: e :: f :: '-' :: g :: h :: rest =>
    if isDay (Literal.natural? [a, b, c, d]) (twoDigits? e f) (twoDigits? g h) then some rest
    else none
  | _ => none

/-- What follows the fraction of a second, if there is one. -/
def afterFraction : Text → Text
  | '.' :: c :: rest => if c.isDigit then rest.dropWhile (·.isDigit) else '.' :: c :: rest
  | rest => rest

/-- What follows the time at the start of a text. A minute may have a leap second. -/
def afterTime? : Text → Option Text
  | a :: b :: ':' :: c :: d :: ':' :: e :: f :: rest =>
    match twoDigits? a b, twoDigits? c d, twoDigits? e f with
    | some hour, some minute, some second =>
      if hour ≤ 23 ∧ minute ≤ 59 ∧ second ≤ 60 then some (afterFraction rest) else none
    | _, _, _ => none
  | _ => none

/-- Whether a text is an offset from universal time. -/
def isOffset : Text → Bool
  | [] | ['Z'] | ['z'] => true
  | [sign, a, b, ':', c, d] =>
    (sign == '+' || sign == '-') && (twoDigits? a b).any (· ≤ 23) && (twoDigits? c d).any (· ≤ 59)
  | _ => false

/-- Whether a text is a time, which may have an offset. -/
def isFullTime (t : Text) : Bool := (afterTime? t).any isOffset

/-- Whether a word is a date, a time, or both with a letter between them. -/
def isDateTime (word : Text) : Bool :=
  afterTime? word == some [] ||
    match afterDate? word with
    | some [] => true
    | some (c :: rest) => (c == 'T' || c == 't') && isFullTime rest
    | none => false

/-- The value that a word writes. -/
def ofWord? (word : Text) : Option Toml :=
  if word = "true" then some (.boolean true)
  else if word = "false" then some (.boolean false)
  else if isDateTime word then some .dateTime
  else if isFloat word then some .float
  else (integer? word).map .integer

end LootFilter.Toml
