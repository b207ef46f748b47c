import LootFilter.Toml.Number
import LootFilter.Toml.Quoted

/-!
# Reading TOML

A document is a list of lines: headers, keys with their values, and comments. Values may be nested;
the nesting is limited.

## Main definitions

* `Toml.value` — the reader of values
* `Toml.read?` — the fields of a document
-/

namespace LootFilter.Toml

/-- The limit for the nesting of lists and tables, and for the parts of a dotted key. -/
def nestingLimit : Nat := 79

/-- A text without the gaps at its start. -/
def skipGaps (t : Text) : Text := t.dropWhile isGap

/-- What follows the comment at the start of a text. -/
def afterComment : Text → Text
  | '#' :: rest => rest.dropWhile isPlain
  | t => t

/-- What follows the end of a line: gaps, a comment, and a line end or the end of the text. -/
def lineEnd? (t : Text) : Option Text :=
  match afterComment (skipGaps t) with
  | [] => some []
  | rest => afterLineEnd? rest

/-- A text without the gaps, comments and line ends at its start. The fuel bounds their number. -/
def skipLines : Nat → Text → Text
  | 0, t => t
  | fuel + 1, t =>
    match skipGaps t with
    | '#' :: rest => skipLines fuel (rest.dropWhile isPlain)
    | t =>
      match afterLineEnd? t with
      | some rest => skipLines fuel rest
      | none => t

/-- The characters of a key without quotes. -/
def isKeyChar (c : Char) : Bool := c.isAlphanum || c == '-' || c == '_'

/-- Reads a part of a key, with the gaps around it. -/
def keyPart? (t : Text) : Option (Text × Text) :=
  let t := skipGaps t
  let word := t.takeWhile isKeyChar
  let part := if word.isEmpty then readShort? t else some (word, t.dropWhile isKeyChar)
  part.map fun (part, rest) => (part, skipGaps rest)

/-- Reads the parts of a key with dots between them. The fuel bounds their number. -/
def keyParts? : Nat → Text → Option (List Text × Text)
  | 0, _ => none
  | fuel + 1, t => do
    let (part, rest) ← keyPart? t
    match rest with
    | '.' :: rest =>
      let (parts, rest) ← keyParts? fuel rest
      return (part :: parts, rest)
    | rest => return ([part], rest)

/-- Reads a key: the path to its table, and its last part. -/
def key? (t : Text) : Option (List Text × Text × Text) := do
  let (parts, rest) ← keyParts? nestingLimit t
  let last ← parts.getLast?
  return (parts.dropLast, last, rest)

/-- Reads the elements of a list up to its closing bracket. The fuel bounds their number. -/
def elements? (item : Text → Option (Toml × Text)) : Nat → Text → Option (List Toml × Text)
  | 0, _ => none
  | fuel + 1, t =>
    match skipLines t.length t with
    | ']' :: rest => some ([], rest)
    | t => do
      let (v, rest) ← item t
      match skipLines rest.length rest with
      | ']' :: rest => return ([v], rest)
      | ',' :: rest =>
        let (vs, rest) ← elements? item fuel rest
        return (v :: vs, rest)
      | _ => none

/-- Reads a key, its equals sign, and its value with the gaps around it. -/
def pair? (item : Text → Option (Toml × Text)) (t : Text) :
    Option ((List Text × Text × Toml) × Text) := do
  let (path, key, rest) ← key? t
  match rest with
  | '=' :: rest =>
    let (v, rest) ← item (skipGaps rest)
    return ((path, key, v), skipGaps rest)
  | _ => none

/-- Reads the pairs of a table in braces up to its closing brace, from a key on. The fuel bounds
their number. -/
def pairs? (item : Text → Option (Toml × Text)) : Nat → Fields → Text → Option (Fields × Text)
  | 0, _, _ => none
  | fuel + 1, fields, t => do
    let ((path, key, v), rest) ← pair? item t
    let fields ← define path key v fields
    match rest with
    | '}' :: rest => return (fields, rest)
    | ',' :: rest => pairs? item fuel fields rest
    | _ => none

/-- The characters of values that are written as one word. -/
def isWordChar (c : Char) : Bool :=
  c.isAlphanum || c == '+' || c == '-' || c == '_' || c == '.' || c == ':'

/-- What follows the time behind a date and a single space. -/
def afterSpacedTime? : Text → Option Text
  | ' ' :: rest =>
    if isFullTime (rest.takeWhile isWordChar) then some (rest.dropWhile isWordChar) else none
  | _ => none

/-- Reads a value that is written as one word; only between a date and a time there may be a
space. -/
def word? (t : Text) : Option (Toml × Text) := do
  let word := t.takeWhile isWordChar
  let rest := t.dropWhile isWordChar
  let v ← ofWord? word
  if afterDate? word = some [] then return (v, (afterSpacedTime? rest).getD rest)
  else return (v, rest)

/-- Reads a value. The number bounds the nesting. -/
def value : Nat → Text → Option (Toml × Text)
  | depth, '[' :: rest =>
    match depth with
    | 0 => none
    | depth + 1 =>
      (elements? (value depth) (rest.length + 1) rest).map fun (vs, rest) => (.array vs, rest)
  | depth, '{' :: rest =>
    match depth with
    | 0 => none
    | depth + 1 =>
      match skipGaps rest with
      | '}' :: rest => some (.table .inline [], rest)
      | _ =>
        (pairs? (value depth) (rest.length + 1) [] rest).map fun (fields, rest) =>
          (.table .inline fields, rest)
  | _, t =>
    match t with
    | '"' :: _ | '\'' :: _ => (readQuoted? t).map fun (s, rest) => (.string s, rest)
    | _ => word? t

/-- A document that has been read up to some line: its fields, and the header of the table that was
opened last. -/
structure Draft where
  /-- The fields. -/
  document : Fields := []
  /-- The path of the table that was opened last. -/
  table : List Text := []

/-- Reads a header after its opening brackets, up to the end of the line. -/
def header? (closing : Text) (t : Text) : Option (List Text × Text × Text) := do
  let (path, key, rest) ← key? t
  if closing.isPrefixOf rest then
    let rest ← lineEnd? (rest.drop closing.length)
    return (path, key, rest)
  else none

/-- Reads a line that is not blank. -/
def line? (d : Draft) : Text → Option (Draft × Text)
  | '#' :: rest => (lineEnd? ('#' :: rest)).map (d, ·)
  | '[' :: '[' :: rest => do
    let (path, key, rest) ← header? [']', ']'] rest
    let document ← openElement path key d.document
    return (⟨document, path ++ [key]⟩, rest)
  | '[' :: rest => do
    let (path, key, rest) ← header? [']'] rest
    let document ← openTable path key d.document
    return (⟨document, path ++ [key]⟩, rest)
  | t =>
    match afterLineEnd? t with
    | some rest => some (d, rest)
    | none => do
      let ((path, key, v), rest) ← pair? (value nestingLimit) t
      let rest ← lineEnd? rest
      let document ← defineIn d.table path key v d.document
      return ({ d with document }, rest)

/-- Reads the lines of a document. The fuel bounds their number. -/
def lines? : Nat → Draft → Text → Option Draft
  | 0, _, _ => none
  | fuel + 1, d, t =>
    match skipGaps t with
    | [] => some d
    | t => do
      let (d, rest) ← line? d t
      lines? fuel d rest

/-- A text without the mark of its byte order. -/
def dropByteOrderMark : Text → Text
  | '\uFEFF' :: rest => rest
  | t => t

/-- The fields of a document. -/
def read? (t : Text) : Option Fields :=
  (lines? (t.length + 1) {} (dropByteOrderMark t)).map Draft.document

end LootFilter.Toml
