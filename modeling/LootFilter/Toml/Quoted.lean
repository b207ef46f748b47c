import LootFilter.Number.Hexadecimal
import LootFilter.Text.Basic

/-!
# Quoted texts of TOML

Texts stand between double quotes, where a backslash escapes, or between single quotes, where
nothing does. Between three quotes of either kind a text may have several lines. A text is written
in the first of these forms that shows it as it is; if none does, between double quotes with
escapes.

## Main definitions

* `Toml.readQuoted?` — the text in quotes at the start of a text, and what follows it
* `Toml.quote` — a text in quotes
-/

namespace LootFilter.Toml

/-- The characters that may stand in texts and comments without an escape. -/
def isPlain (c : Char) : Bool :=
  c = '\t' || (0x20 ≤ c.toNat && c.toNat ≤ 0x7E) || 0x80 ≤ c.toNat

/-- The blanks within a line. -/
def isGap (c : Char) : Bool := c = ' ' || c = '\t'

/-- What follows the line end at the start of a text. -/
def afterLineEnd? : Text → Option Text
  | '\n' :: rest => some rest
  | '\r' :: '\n' :: rest => some rest
  | _ => none

/-- The character of an escape by a letter. -/
def escapedChar? : Char → Option Char
  | 'b' => some '\x08'
  | 'f' => some '\x0c'
  | 'n' => some '\n'
  | 'r' => some '\r'
  | 't' => some '\t'
  | '"' => some '"'
  | '\\' => some '\\'
  | _ => none

/-- The character of an escape by number. -/
def numberedChar? (digits : Text) : Option Char :=
  (Hexadecimal.number? digits).bind Hexadecimal.character?

/-! ### Reading -/

/-- Reads a text of one line after its opening double quote. What has been read before is given
with its last character first. -/
def basicFrom (before : Text) : Text → Option (Text × Text)
  | [] => none
  | '"' :: rest => some (before.reverse, rest)
  | '\\' :: 'u' :: a :: b :: c :: d :: rest =>
    match numberedChar? [a, b, c, d] with
    | some x => basicFrom (x :: before) rest
    | none => none
  | '\\' :: 'U' :: a :: b :: c :: d :: e :: f :: g :: h :: rest =>
    match numberedChar? [a, b, c, d, e, f, g, h] with
    | some x => basicFrom (x :: before) rest
    | none => none
  | '\\' :: e :: rest =>
    match escapedChar? e with
    | some x => basicFrom (x :: before) rest
    | none => none
  | c :: rest => if isPlain c && c != '\\' then basicFrom (c :: before) rest else none

/-- Whether only gaps are left on a line. -/
def isLineOver (t : Text) : Bool := (afterLineEnd? (t.dropWhile isGap)).isSome

/-- Reads a text of several lines after its opening double quotes. While `skipping`, which a
backslash at the end of a line begins, gaps and line ends are passed over. Up to two quotes may
stand in front of the closing ones. -/
def longBasicFrom (skipping : Bool) (before : Text) : Text → Option (Text × Text)
  | [] => none
  | '"' :: '"' :: '"' :: '"' :: '"' :: rest => some (('"' :: '"' :: before).reverse, rest)
  | '"' :: '"' :: '"' :: '"' :: rest => some (('"' :: before).reverse, rest)
  | '"' :: '"' :: '"' :: rest => some (before.reverse, rest)
  | '\r' :: '\n' :: rest =>
    longBasicFrom skipping (if skipping then before else '\n' :: before) rest
  | '\\' :: 'u' :: a :: b :: c :: d :: rest =>
    match numberedChar? [a, b, c, d] with
    | some x => longBasicFrom false (x :: before) rest
    | none => none
  | '\\' :: 'U' :: a :: b :: c :: d :: e :: f :: g :: h :: rest =>
    match numberedChar? [a, b, c, d, e, f, g, h] with
    | some x => longBasicFrom false (x :: before) rest
    | none => none
  | '\\' :: e :: rest =>
    match escapedChar? e with
    | some x => longBasicFrom false (x :: before) rest
    | none => if isLineOver (e :: rest) then longBasicFrom true before (e :: rest) else none
  | c :: rest =>
    if skipping && (isGap c || c = '\n') then longBasicFrom true before rest
    else if (isPlain c && c != '\\') || c = '\n' then longBasicFrom false (c :: before) rest
    else none

/-- Reads a text of one line after its opening single quote. -/
def literalFrom (before : Text) : Text → Option (Text × Text)
  | [] => none
  | '\'' :: rest => some (before.reverse, rest)
  | c :: rest => if isPlain c then literalFrom (c :: before) rest else none

/-- Reads a text of several lines after its opening single quotes. Up to two quotes may stand in
front of the closing ones. -/
def longLiteralFrom (before : Text) : Text → Option (Text × Text)
  | [] => none
  | '\'' :: '\'' :: '\'' :: '\'' :: '\'' :: rest => some (('\'' :: '\'' :: before).reverse, rest)
  | '\'' :: '\'' :: '\'' :: '\'' :: rest => some (('\'' :: before).reverse, rest)
  | '\'' :: '\'' :: '\'' :: rest => some (before.reverse, rest)
  | '\r' :: '\n' :: rest => longLiteralFrom ('\n' :: before) rest
  | c :: rest => if isPlain c || c = '\n' then longLiteralFrom (c :: before) rest else none

/-- A text without the line end at its start. -/
def dropLineEnd (t : Text) : Text := (afterLineEnd? t).getD t

/-- Reads a text of one line in quotes. -/
def readShort? : Text → Option (Text × Text)
  | '"' :: rest => basicFrom [] rest
  | '\'' :: rest => literalFrom [] rest
  | _ => none

/-- Reads a text in quotes. A line end right behind three quotes does not belong to the text. -/
def readQuoted? : Text → Option (Text × Text)
  | '"' :: '"' :: '"' :: rest => longBasicFrom false [] (dropLineEnd rest)
  | '\'' :: '\'' :: '\'' :: rest => longLiteralFrom [] (dropLineEnd rest)
  | t => readShort? t

/-! ### Writing -/

/-- The length of the longest run of a character. -/
def longestRun (c : Char) (t : Text) : Nat :=
  (t.foldl (fun (state : Nat × Nat) d =>
    let run := if d = c then state.1 + 1 else 0
    (run, max run state.2)) (0, 0)).2

/-- Whether a text has control characters other than tabs and line feeds. -/
def hasControls (t : Text) : Bool :=
  t.any fun c => (c.toNat < 0x20 || c = '\x7f') && c != '\t' && c != '\n'

/-- A control character by number, with four capital digits. -/
def byNumber (c : Char) : Text :=
  let digit (n : Nat) := (Nat.digitChar n).toUpper
  ['\\', 'u', '0', '0', digit (c.toNat / 16), digit (c.toNat % 16)]

/-- A text as it stands between double quotes, of which at most `quotes` may follow one another
without an escape. -/
def escapedBasic (lineFeeds : Bool) (quotes : Nat) : Nat → Text → Text
  | _, [] => []
  | run, c :: rest =>
    if c = '"' then
      if run < quotes then '"' :: escapedBasic lineFeeds quotes (run + 1) rest
      else '\\' :: '"' :: escapedBasic lineFeeds quotes 0 rest
    else
      (if c = '\\' then ['\\', '\\']
        else if c = '\x08' then ['\\', 'b']
        else if c = '\t' then ['\\', 't']
        else if c = '\n' then if lineFeeds then ['\n'] else ['\\', 'n']
        else if c = '\x0c' then ['\\', 'f']
        else if c = '\r' then ['\\', 'r']
        else if c.toNat < 0x20 ∨ c = '\x7f' then byNumber c
        else [c]) ++ escapedBasic lineFeeds quotes 0 rest

/-- A text between double quotes. -/
def basic (t : Text) : Text := '"' :: escapedBasic false 0 0 t ++ ['"']

/-- A text between single quotes. -/
def literal (t : Text) : Text := '\'' :: t ++ ['\'']

/-- The line feed behind the opening quotes of a text of several lines. -/
def openingLineEnd (t : Text) : Text := if t.contains '\n' then ['\n'] else []

/-- A text between three double quotes. -/
def longBasic (t : Text) : Text :=
  "\"\"\"" ++ openingLineEnd t ++ escapedBasic true 2 0 t ++ "\"\"\""

/-- A text between three single quotes. -/
def longLiteral (t : Text) : Text := "'''" ++ openingLineEnd t ++ t ++ "'''"

/-- A text in quotes. -/
def quote (t : Text) : Text :=
  let controls := hasControls t
  let backslash := t.contains '\\'
  let lineFeed := t.contains '\n'
  if !controls && !backslash && !lineFeed && longestRun '"' t = 0 then basic t
  else if !controls && !lineFeed && longestRun '\'' t = 0 then literal t
  else if !controls && !backslash && longestRun '"' t ≤ 2 then longBasic t
  else if !controls && longestRun '\'' t ≤ 2 then longLiteral t
  else if lineFeed then longBasic t
  else basic t

end LootFilter.Toml
