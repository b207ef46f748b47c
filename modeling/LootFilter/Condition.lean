import LootFilter.Line.Quoted
import LootFilter.Number.Literal
import LootFilter.Operator
import LootFilter.Property

/-!
# Conditions

A condition compares a property of the item with a value. A condition on a text names one or
several alternatives, and the operator may be missing; a condition on a number needs an operator
and a number.

    condition ::= text-keyword [operator] value | number-keyword operator digits
    value     ::= quoted+ | word+

## Main definitions

* `Value`, `Condition` — conditions as data
* `Value.ofText?` — the value that a text stands for
* `Condition.ofLine?` — the condition that a line stands for, if it is one
* `Condition.display` — a condition as a line
-/

namespace LootFilter

/-- What a condition compares a property with. -/
inductive Value
  /-- A single text. -/
  | text (t : Text)
  /-- Alternatives, one of which has to match. -/
  | list (ts : List Text)
  /-- A number. -/
  | number (n : Int)
  /-- Digits whose number is out of range. Such a value matches nothing. -/
  | malformed (digits : Text)
  deriving Repr, DecidableEq

namespace Value

/-- The alternatives of a value. Numbers have none. -/
def alternatives : Value → List Text
  | .text t => [t]
  | .list ts => ts
  | .number _ | .malformed _ => []

/-- A text between double quotes. -/
def quoted (t : Text) : Text := '"' :: t ++ ['"']

/-- A value as a condition line writes it. -/
def display : Value → Text
  | .text t => quoted t
  | .list ts => Text.joined " " (ts.map quoted)
  | .number n => Text.ofInt n
  | .malformed digits => digits

/-- A value without quoted segments: a single word is a text, several are alternatives. -/
def ofWords : List Text → Value
  | [word] => .text word
  | words => .list words

/-- The value that a text stands for: its quoted segments, or else its words. A blank text stands
for no value. -/
def ofText? (t : Text) : Option Value :=
  if t.isBlankText then none
  else
    match Text.quotedSegments t with
    | [] => some (ofWords t.words)
    | segments => some (.list segments)

/-- The value that digits stand for. -/
def ofDigits (digits : Text) : Value :=
  match Literal.integer? digits with
  | some n => .number n
  | none => .malformed digits

end Value

/-- A condition: a property, an operator and a value. -/
structure Condition where
  /-- The property that is compared. -/
  property : Property
  /-- The comparison. -/
  operator : Operator
  /-- What the property is compared with. -/
  value : Value
  deriving Repr, DecidableEq

namespace Condition

/-- The operator in front of a value, if one is written and something follows it, and the text of
the value. -/
def splitOperator (rest : Text) : Option Operator × Text :=
  match Text.firstWord? rest with
  | none => (none, rest)
  | some (word, remainder) =>
    match Operator.ofSymbol? word with
    | some o => if remainder.isEmpty then (none, rest) else (some o, remainder)
    | none => (none, rest)

/-- A condition on a text: an operator, which may be missing, and a value. -/
def ofTextRest? (p : TextProperty) (rest : Text) : Option Condition :=
  let (operator, value) := splitOperator rest
  (Value.ofText? value).map fun v => ⟨.text p, operator.getD .equal, v⟩

/-- A condition on a number: exactly an operator and digits. -/
def ofNumberRest? (p : NumberProperty) (rest : Text) : Option Condition :=
  match Text.words rest with
  | [symbol, digits] =>
    match Operator.ofSymbol? symbol with
    | some o =>
      if digits.all (·.isDigit) then some ⟨.number p, o, Value.ofDigits digits⟩ else none
    | none => none
  | _ => none

/-- The condition that a line without a comment stands for, if it is one. -/
def ofLine? (line : Text) : Option Condition :=
  match Text.firstWord? line with
  | none => none
  | some (word, rest) =>
    match Property.ofKeyword? word with
    | some (.text p) => ofTextRest? p rest
    | some (.number p) => ofNumberRest? p rest
    | none => none

/-- A condition as a line. -/
def display (c : Condition) : Text :=
  c.property.keyword ++ " " ++ c.operator.symbol ++ " " ++ c.value.display

end Condition

end LootFilter
