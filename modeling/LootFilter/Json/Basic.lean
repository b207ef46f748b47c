import LootFilter.Text.Basic

/-!
# JSON values

Values of the JSON format and how they are written, on a single line or indented by two spaces for
each level. The fields of an object keep their order.

## Main definitions

* `Json` — the values
* `Json.escaped` — a text as it stands between quotes
* `Json.compact`, `Json.pretty` — the two layouts
-/

namespace LootFilter

/-- A JSON value. -/
inductive Json
  /-- `null` -/
  | null
  /-- A truth value. -/
  | bool (b : Bool)
  /-- A number without fraction and exponent. -/
  | integer (n : Int)
  /-- Any other number, as it is written. -/
  | decimal (literal : Text)
  /-- A text. -/
  | string (t : Text)
  /-- A list of values. -/
  | array (elements : List Json)
  /-- Values with names, in order. -/
  | object (fields : List (Text × Json))

namespace Json

/-- An optional value; a missing one is `null`. -/
def ofOption {α : Type} (encode : α → Json) : Option α → Json
  | none => null
  | some a => encode a

/-- A natural number. -/
def ofNat (n : Nat) : Json := integer n

/-- A field that is left out if its value is missing. -/
def optionalField {α : Type} (key : Text) (encode : α → Json) : Option α → List (Text × Json)
  | none => []
  | some a => [(key, encode a)]

/-- A number below sixteen as a hexadecimal digit. -/
def hexDigit (n : Nat) : Char := Nat.digitChar n

/-- A character as it stands between quotes. Quotes, backslashes and control characters are
escaped. -/
def escapedChar (c : Char) : Text :=
  if c = '"' then ['\\', '"']
  else if c = '\\' then ['\\', '\\']
  else if c = '\x08' then ['\\', 'b']
  else if c = '\x0c' then ['\\', 'f']
  else if c = '\n' then ['\\', 'n']
  else if c = '\r' then ['\\', 'r']
  else if c = '\t' then ['\\', 't']
  else if c.toNat < 0x20 then
    ['\\', 'u', '0', '0', hexDigit (c.toNat / 16), hexDigit (c.toNat % 16)]
  else [c]

/-- A text as it stands between quotes. -/
def escaped (t : Text) : Text := t.flatMap escapedChar

/-- A text between quotes. -/
def quoted (t : Text) : Text := '"' :: escaped t ++ ['"']

/-- The opening and closing characters of a list. -/
def brackets (body : Text) : Text := '[' :: body ++ [']']

/-- The opening and closing characters of an object. -/
def braces (body : Text) : Text := '{' :: body ++ ['}']

mutual

/-- A value on a single line, without blanks. -/
def compact : Json → Text
  | null => "null"
  | bool b => Text.ofBool b
  | integer n => Text.ofInt n
  | decimal literal => literal
  | string t => quoted t
  | array elements => brackets (Text.joined "," (compactElements elements))
  | object fields => braces (Text.joined "," (compactFields fields))

/-- The elements of a list, each on a single line. -/
def compactElements : List Json → List Text
  | [] => []
  | j :: rest => compact j :: compactElements rest

/-- The fields of an object, each on a single line. -/
def compactFields : List (Text × Json) → List Text
  | [] => []
  | (key, j) :: rest => (quoted key ++ ':' :: compact j) :: compactFields rest

end

/-- A line break and the indentation of a level. -/
def lineBreak (level : Nat) : Text := '\n' :: List.replicate (2 * level) ' '

/-- The entries of a list or object on lines of their own, one level deeper than their frame. -/
def indented (level : Nat) (entries : List Text) : Text :=
  lineBreak (level + 1) ++ Text.joined (',' :: lineBreak (level + 1)) entries ++ lineBreak level

mutual

/-- A value with its entries on lines of their own, at a level of indentation. -/
def prettyAt (level : Nat) : Json → Text
  | null => "null"
  | bool b => Text.ofBool b
  | integer n => Text.ofInt n
  | decimal literal => literal
  | string t => quoted t
  | array [] => brackets []
  | array (j :: rest) =>
    brackets (indented level (prettyAt (level + 1) j :: prettyElements (level + 1) rest))
  | object [] => braces []
  | object ((key, j) :: rest) =>
    braces (indented level
      ((quoted key ++ ": " ++ prettyAt (level + 1) j) :: prettyFields (level + 1) rest))

/-- The elements of a list, with their entries on lines of their own. -/
def prettyElements (level : Nat) : List Json → List Text
  | [] => []
  | j :: rest => prettyAt level j :: prettyElements level rest

/-- The fields of an object, with their entries on lines of their own. -/
def prettyFields (level : Nat) : List (Text × Json) → List Text
  | [] => []
  | (key, j) :: rest =>
    (quoted key ++ ": " ++ prettyAt level j) :: prettyFields level rest

end

/-- A value with its entries on lines of their own, indented by two spaces for each level. -/
def pretty (j : Json) : Text := prettyAt 0 j

end Json

end LootFilter
