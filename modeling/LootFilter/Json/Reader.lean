import LootFilter.Json.Basic
import LootFilter.Number.Hexadecimal
import LootFilter.Number.Range

/-!
# Reading JSON

A JSON text is read from left to right, and the first fault decides. A text may be malformed at
some character, end too early, or hold a value of the wrong type.

Values that nobody asks for are passed over less strictly: their text escapes may be halves of a
surrogate pair, their numbers may have any size, and a number that breaks off at the end of the text
is malformed rather than truncated.

## Main definitions

* `Json.Fault` — the faults
* `Json.stringFrom`, `Json.number`, `Json.literal` — readers of the leaves
* `Json.value` — the reader of values
* `Json.read` — the value that a whole text holds

## Main results

* `Json.stringFrom_escaped` — a text is read back from its escaped form
-/

namespace LootFilter.Json

/-- Why a text cannot be read. -/
inductive Fault
  /-- The text breaks the grammar. -/
  | malformed
  /-- The text ends too early. -/
  | truncated
  /-- A value has the wrong type, is out of range, or is given twice. -/
  | mistyped
  deriving Repr, DecidableEq

/-- How a value is read: because somebody asks for it, or in order to pass over it. -/
inductive Purpose
  | asked
  | passedOver
  deriving Repr, DecidableEq

/-- The characters between the parts of a value. -/
def isSpace (c : Char) : Bool := c == ' ' || c == '\t' || c == '\n' || c == '\r'

/-- The text from the next part of a value. -/
def skipSpace (t : Text) : Text := t.dropWhile isSpace

/-- The fault of a text that ends, or goes on differently, where more of a part is needed. -/
def faultAt (rest : Text) : Fault := if rest.isEmpty then .truncated else .malformed

/-- The fault of an escape by number with fewer than four characters left: the text counts as
ended if fewer than four bytes are left. -/
def shortEscapeFault (rest : Text) : Fault :=
  if Text.byteCount rest < 4 then .truncated else .malformed

/-- The first halves of surrogate pairs. -/
def isHighSurrogate (n : Nat) : Bool := 0xD800 ≤ n && n ≤ 0xDBFF

/-- The second halves of surrogate pairs. -/
def isLowSurrogate (n : Nat) : Bool := 0xDC00 ≤ n && n ≤ 0xDFFF

/-- The character of a surrogate pair. -/
def pairChar (high low : Nat) : Char :=
  Char.ofNat (0x10000 + (high - 0xD800) * 0x400 + (low - 0xDC00))

/-- The fault of the first half of a surrogate pair that no second half follows. -/
def unpairedFault : Text → Fault
  | [] => .truncated
  | ['\\'] => .truncated
  | '\\' :: 'u' :: rest => shortEscapeFault rest
  | _ => .malformed

/-- The character of an escape by a single letter. -/
def unescaped? : Char → Option Char
  | '"' => some '"'
  | '\\' => some '\\'
  | '/' => some '/'
  | 'b' => some '\x08'
  | 'f' => some '\x0c'
  | 'n' => some '\n'
  | 'r' => some '\r'
  | 't' => some '\t'
  | _ => none

/-- Reads a text after its opening quote. What has been read before is given with its last
character first. -/
def stringFrom (purpose : Purpose) (before : Text) : Text → Except Fault (Text × Text)
  | [] => .error .truncated
  | '"' :: rest => .ok (before.reverse, rest)
  | '\\' :: 'u' :: a :: b :: c :: d :: rest =>
    match Hexadecimal.number? [a, b, c, d] with
    | none => .error .malformed
    | some n =>
      if purpose = .passedOver then stringFrom purpose before rest
      else if isLowSurrogate n then .error .malformed
      else if isHighSurrogate n then
        match rest with
        | '\\' :: 'u' :: e :: f :: g :: h :: rest' =>
          match Hexadecimal.number? [e, f, g, h] with
          | none => .error .malformed
          | some m =>
            if isLowSurrogate m then stringFrom purpose (pairChar n m :: before) rest'
            else .error .malformed
        | _ => .error (unpairedFault rest)
      else stringFrom purpose (Char.ofNat n :: before) rest
  | '\\' :: 'u' :: rest => .error (shortEscapeFault rest)
  | ['\\'] => .error .truncated
  | '\\' :: e :: rest =>
    match unescaped? e with
    | some c => stringFrom purpose (c :: before) rest
    | none => .error .malformed
  | c :: rest => if c.toNat < 0x20 then .error .malformed else stringFrom purpose (c :: before) rest

/-- The digits of an escaped control character are read back. -/
theorem number?_hexDigits : ∀ n < 0x20,
    Hexadecimal.number? ['0', '0', hexDigit (n / 16), hexDigit (n % 16)] = some n := by decide

/-- A character is read back from its escaped form. -/
theorem stringFrom_escapedChar (before rest : Text) (c : Char) :
    stringFrom .asked before (escapedChar c ++ rest) = stringFrom .asked (c :: before) rest := by
  unfold escapedChar
  split
  · subst c; simp [stringFrom, unescaped?]
  split
  · subst c; simp [stringFrom, unescaped?]
  split
  · subst c; simp [stringFrom, unescaped?]
  split
  · subst c; simp [stringFrom, unescaped?]
  split
  · subst c; simp [stringFrom, unescaped?]
  split
  · subst c; simp [stringFrom, unescaped?]
  split
  · subst c; simp [stringFrom, unescaped?]
  split
  · next h =>
    have low : isLowSurrogate c.toNat = false := by grind [isLowSurrogate]
    have high : isHighSurrogate c.toNat = false := by grind [isHighSurrogate]
    simp [stringFrom, number?_hexDigits _ h, low, high]
  · next _ backslash _ _ _ _ _ printable =>
    simp [stringFrom, backslash, printable]

/-- A text is read back from its escaped form. -/
theorem stringFrom_escaped (before t rest : Text) :
    stringFrom .asked before (escaped t ++ '"' :: rest) = .ok (before.reverse ++ t, rest) := by
  induction t generalizing before with
  | nil => simp [escaped, stringFrom]
  | cons c t ih =>
    have head : escaped (c :: t) = escapedChar c ++ escaped t := rfl
    rw [head, List.append_assoc, stringFrom_escapedChar, ih]
    simp

/-- Reads the rest of a fixed word and gives its value. -/
def literal (word : Text) (j : Json) (t : Text) : Except Fault (Json × Text) :=
  match word, t with
  | [], rest => .ok (j, rest)
  | _ :: _, [] => .error .truncated
  | w :: word, c :: rest => if w = c then literal word j rest else .error .malformed

/-- The digits at the start of a text, and what follows them. -/
def digits (t : Text) : Text × Text := (t.takeWhile (·.isDigit), t.dropWhile (·.isDigit))

/-- The fault of a number that breaks off. -/
def numberFault (purpose : Purpose) (rest : Text) : Fault :=
  match purpose with
  | .asked => faultAt rest
  | .passedOver => .malformed

/-- Reads the fraction of a number, if there is one: its digits. -/
def fraction (purpose : Purpose) : Text → Except Fault (Option Text × Text)
  | '.' :: rest =>
    match digits rest with
    | ([], rest) => .error (numberFault purpose rest)
    | (ds, rest) => .ok (some ds, rest)
  | rest => .ok (none, rest)

/-- The sign in front of an exponent: whether it is a minus, and what follows. -/
def exponentSign : Text → Bool × Text
  | '-' :: rest => (true, rest)
  | '+' :: rest => (false, rest)
  | rest => (false, rest)

/-- Reads the exponent of a number, if there is one. -/
def exponent (purpose : Purpose) : Text → Except Fault (Option Int × Text)
  | [] => .ok (none, [])
  | c :: rest =>
    if c = 'e' ∨ c = 'E' then
      let (negative, rest) := exponentSign rest
      match digits rest with
      | ([], rest) => .error (numberFault purpose rest)
      | (ds, rest) =>
        let n : Int := Nat.ofDigitChars 10 ds 0
        .ok (some (if negative then -n else n), rest)
    else .ok (none, c :: rest)

/-- Reads a number without its sign. An integer is a number without fraction and exponent; a zero
with a minus sign is none. -/
def unsignedNumber (purpose : Purpose) (negative : Bool) (t : Text) : Except Fault (Json × Text) :=
  match digits t with
  | ([], rest) => .error (numberFault purpose rest)
  | ('0' :: _ :: _, _) => .error .malformed
  | (whole, rest) => do
    let (places, rest) ← fraction purpose rest
    let (power, rest) ← exponent purpose rest
    let n := Nat.ofDigitChars 10 whole 0
    let scale := power.getD 0 - (places.getD []).length
    if purpose = .asked && productIsBeyondDouble (whole ++ places.getD []) scale then
      .error .malformed
    else if places.isNone && power.isNone && !(negative && n == 0) then
      .ok (.integer (if negative then -n else n), rest)
    else
      .ok (.decimal ((if negative then ['-'] else []) ++ t.take (t.length - rest.length)), rest)

/-- Reads a number. -/
def number (purpose : Purpose) : Text → Except Fault (Json × Text)
  | '-' :: rest => unsignedNumber purpose true rest
  | rest => unsignedNumber purpose false rest

/-- Reads a value that is no list and no object, from its first character. -/
def scalar (purpose : Purpose) : Text → Except Fault (Json × Text)
  | [] => .error .truncated
  | 'n' :: rest => literal "ull" .null rest
  | 't' :: rest => literal "rue" (.bool true) rest
  | 'f' :: rest => literal "alse" (.bool false) rest
  | '"' :: rest => (stringFrom purpose [] rest).map fun (t, rest) => (.string t, rest)
  | c :: rest =>
    if c = '-' ∨ c.isDigit then number purpose (c :: rest) else .error .malformed

/-- Reads the colon behind a key. -/
def colon (t : Text) : Except Fault Text :=
  match skipSpace t with
  | ':' :: rest => .ok rest
  | rest => .error (faultAt rest)

mutual

/-- Reads a value. The fuel bounds the number of values and brackets. -/
def value (purpose : Purpose) : Nat → Text → Except Fault (Json × Text)
  | 0, _ => .error .malformed
  | fuel + 1, t =>
    match skipSpace t with
    | '[' :: rest =>
      match skipSpace rest with
      | ']' :: rest => .ok (.array [], rest)
      | rest => (elements purpose fuel rest).map fun (js, rest) => (.array js, rest)
    | '{' :: rest =>
      match skipSpace rest with
      | '}' :: rest => .ok (.object [], rest)
      | rest => (fields purpose fuel rest).map fun (js, rest) => (.object js, rest)
    | rest => scalar purpose rest

/-- Reads the elements of a list up to its closing bracket. -/
def elements (purpose : Purpose) : Nat → Text → Except Fault (List Json × Text)
  | 0, _ => .error .malformed
  | fuel + 1, t => do
    let (j, rest) ← value purpose fuel t
    match skipSpace rest with
    | ']' :: rest => return ([j], rest)
    | ',' :: rest =>
      let (js, rest) ← elements purpose fuel rest
      return (j :: js, rest)
    | rest => .error (faultAt rest)

/-- Reads the fields of an object up to its closing brace. -/
def fields (purpose : Purpose) : Nat → Text → Except Fault (List (Text × Json) × Text)
  | 0, _ => .error .malformed
  | fuel + 1, t =>
    match skipSpace t with
    | '"' :: rest => do
      let (key, rest) ← stringFrom purpose [] rest
      let rest ← colon rest
      let (j, rest) ← value purpose fuel rest
      match skipSpace rest with
      | '}' :: rest => return ([(key, j)], rest)
      | ',' :: rest =>
        let (js, rest) ← fields purpose fuel rest
        return ((key, j) :: js, rest)
      | rest => .error (faultAt rest)
    | rest => .error (faultAt rest)

end

/-- Fuel that is enough for every value of a text. -/
def fuelFor (t : Text) : Nat := 2 * t.length + 2

/-- Checks that nothing but space follows a value. -/
def atEnd {α : Type} : α × Text → Except Fault α
  | (a, rest) => if (skipSpace rest).isEmpty then .ok a else .error .malformed

/-- The value that a whole text holds. -/
def read (t : Text) : Except Fault Json := value .asked (fuelFor t) t >>= atEnd

end LootFilter.Json
