import LootFilter.Text.Basic

/-!
# TOML documents

The values of a TOML document, and how its tables grow line by line. A table is defined once: by its
header, by dotted keys, or in braces. A table that only stands on the way to another one may still
get a header of its own later.

## Main definitions

* `Toml`, `Toml.TableKind` — the values, and how a table came to be
* `Toml.modifyAt` — a change of the table at a path
* `Toml.define`, `Toml.openTable`, `Toml.openElement` — what a line does to a table
-/

namespace LootFilter

/-- How a table came to be. -/
inductive Toml.TableKind
  /-- It stands on the way to a table with a header. -/
  | implicit
  /-- It stands on the way to a dotted key. -/
  | dotted
  /-- It has a header, or is the whole document. -/
  | explicit
  /-- It stands in braces, and is complete. -/
  | inline
  deriving Repr, DecidableEq

/-- A value of a document. The values of fractional numbers and of dates are not kept. -/
inductive Toml
  /-- A text. -/
  | string (t : Text)
  /-- An integer of 64 bits. -/
  | integer (n : Int)
  /-- A number with a fraction or an exponent. -/
  | float
  /-- A truth value. -/
  | boolean (b : Bool)
  /-- A date, a time, or both. -/
  | dateTime
  /-- A list in brackets. -/
  | array (elements : List Toml)
  /-- A table. -/
  | table (kind : Toml.TableKind) (fields : List (Text × Toml))
  /-- Tables with one header in common, the latest apart. -/
  | tables (earlier : List (List (Text × Toml))) (latest : List (Text × Toml))

namespace Toml

/-- The fields of a table. -/
abbrev Fields := List (Text × Toml)

/-- The fields with a field set: in its place, or else at the end. -/
def Fields.set (key : Text) (v : Toml) : Fields → Fields
  | [] => [(key, v)]
  | (k, old) :: rest => if k = key then (k, v) :: rest else (k, old) :: set key v rest

/-- Changes the table at a path. Tables that are missing on the way are made. With `dotted` the
path is part of a dotted key: then it leads through no table that has a header. -/
def modifyAt (dotted : Bool) (change : TableKind → Fields → Option Fields) :
    List Text → TableKind → Fields → Option Fields
  | [], kind, fields => change kind fields
  | key :: path, _, fields =>
    match fields.lookup key with
    | none =>
      let kind := if dotted then .dotted else .implicit
      (modifyAt dotted change path kind []).map fun below => fields ++ [(key, .table kind below)]
    | some (.table kind below) =>
      if kind = .inline ∨ (dotted ∧ kind = .explicit) then none
      else
        (modifyAt dotted change path kind below).map fun below => fields.set key (.table kind below)
    | some (.tables earlier latest) =>
      (modifyAt dotted change path .explicit latest).map fun latest =>
        fields.set key (.tables earlier latest)
    | some _ => none

/-- Defines a key, which may be dotted. A table that got its fields by other means cannot be
extended by a dotted key, and no key can be defined twice. -/
def define (path : List Text) (key : Text) (v : Toml) (fields : Fields) : Option Fields :=
  modifyAt true
    (fun kind fields =>
      if (path.isEmpty ∨ kind = .dotted) ∧ (fields.lookup key).isNone then
        some (fields ++ [(key, v)])
      else none)
    path .explicit fields

/-- Opens the table with a header: a new one, or one that so far only stood on the way. -/
def openTable (path : List Text) (key : Text) (document : Fields) : Option Fields :=
  modifyAt false
    (fun _ fields =>
      match fields.lookup key with
      | none => some (fields ++ [(key, .table .explicit [])])
      | some (.table .implicit below) => some (fields.set key (.table .explicit below))
      | some _ => none)
    path .explicit document

/-- Opens the next of the tables with a header in common. -/
def openElement (path : List Text) (key : Text) (document : Fields) : Option Fields :=
  modifyAt false
    (fun _ fields =>
      match fields.lookup key with
      | none => some (fields ++ [(key, .tables [] [])])
      | some (.tables earlier latest) =>
        some (fields.set key (.tables (earlier ++ [latest]) []))
      | some _ => none)
    path .explicit document

/-- Defines a key in the table that was opened last. -/
def defineIn (table : List Text) (path : List Text) (key : Text) (v : Toml) (document : Fields) :
    Option Fields :=
  modifyAt false (fun _ fields => define path key v fields) table .explicit document

end Toml

end LootFilter
