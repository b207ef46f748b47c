import LootFilter.Filter.Verdict
import LootFilter.Log.Level
import LootFilter.Text.Legible

/-!
# Log events

What a run tells about itself on the side, apart from its results. An event comes from a part of the
program, has a level, and consists of a summary and details. Settings speak of all of these.

## Main definitions

* `Log.Event` — the events
* `Log.Event.origin`, `Log.Event.level`, `Log.Event.details` — what settings go by
* `Log.Event.line` — the line for an event
-/

namespace LootFilter.Log

/-- What a run tells on the side. -/
inductive Event
  /-- The settings cannot be read, and output is as if there were none. -/
  | settingsIgnored (reason : Text)
  /-- The item has no base type. -/
  | namelessItem
  /-- An item is previewed in a filter. -/
  | previewing (filter baseType : Text)
  /-- A filter has been checked. -/
  | checked (errors warnings : Nat)
  /-- The filter of a file has been checked. -/
  | checkedFile (file : Text) (strict : Bool) (diagnostics : Nat)
  /-- The blocks of a filter have been read. -/
  | blocksRead (count : Nat)
  /-- A line in front of the first block is passed over. -/
  | lineOutsideBlock (line : Nat)
  /-- A line without a meaning is passed over. -/
  | lineIgnored (line : Nat) (text : Text)
  /-- A block has decided on an item. -/
  | blockMatched (line : Nat) (visibility : Visibility) (baseType : Text)
  /-- No block has decided on an item. -/
  | noBlockMatched (baseType : Text)
  deriving Repr, DecidableEq

namespace Event

/-- The level of an event. -/
def level : Event → Level
  | .settingsIgnored _ | .namelessItem => .warn
  | .previewing .. | .checked .. | .checkedFile .. | .blocksRead _ | .blockMatched ..
  | .noBlockMatched _ => .debug
  | .lineOutsideBlock _ | .lineIgnored .. => .trace

/-- The part of the program that an event comes from, by the name that settings use. -/
def origin : Event → Text
  | .settingsIgnored _ => "pf"
  | .namelessItem | .previewing .. => "pf::commands::preview"
  | .blocksRead _ => "pf::commands::blocks"
  | .checkedFile .. => "pf::commands::validate"
  | .checked .. => "poe_filter_rs::filter::validator"
  | .lineOutsideBlock _ | .lineIgnored .. | .blockMatched .. | .noBlockMatched _ =>
    "poe_filter_rs::filter::evaluator"

/-- What an event says in a few words. -/
def summary : Event → Text
  | .settingsIgnored reason => "ignoring output settings: " ++ reason
  | .namelessItem => "item has no base type; the default style applies"
  | .previewing .. => "previewing item"
  | .checked .. | .checkedFile .. => "validated filter"
  | .blocksRead _ => "parsed blocks"
  | .lineOutsideBlock _ => "skipping line outside of any block"
  | .lineIgnored .. => "ignoring unrecognized line"
  | .blockMatched .. => "filter block matched item"
  | .noBlockMatched _ => "no filter block matched item"

/-- The details of an event: names and values. -/
def details : Event → List (Text × Text)
  | .settingsIgnored _ | .namelessItem => []
  | .previewing filter baseType => [("filter", filter), ("base_type", baseType)]
  | .checked errors warnings => [("errors", Text.ofNat errors), ("warnings", Text.ofNat warnings)]
  | .checkedFile file strict diagnostics =>
    [("file", file), ("strict", Text.ofBool strict), ("diagnostics", Text.ofNat diagnostics)]
  | .blocksRead count => [("count", Text.ofNat count)]
  | .lineOutsideBlock line => [("line", Text.ofNat line)]
  | .lineIgnored line text => [("line", Text.ofNat line), ("text", Text.legible text)]
  | .blockMatched line visibility baseType =>
    [("line", Text.ofNat line), ("visibility", visibility.keyword), ("base_type", baseType)]
  | .noBlockMatched baseType => [("base_type", baseType)]

/-- Whether an event has a detail with a name. The summary counts as the detail `message`. -/
def hasDetail (e : Event) (name : Text) : Bool :=
  name = ("message" : Text) ∨ e.details.any (·.1 = name)

/-- An event in words, followed by its details. -/
def message (e : Event) : Text := e.summary ++ e.details.flatMap fun d => ' ' :: d.1 ++ '=' :: d.2

/-- The line for an event. -/
def line (e : Event) : Text := e.level.label ++ ' ' :: e.message

end Event

end LootFilter.Log

namespace LootFilter.Filter

/-- The events of reading numbered lines, which may belong to a block. -/
def lineEvents (inBlock : Bool) : List (Text × Nat) → List Log.Event
  | [] => []
  | (raw, number) :: rest =>
    if (Visibility.ofLine? raw).isSome then lineEvents true rest
    else
      let line := Text.withoutComment raw
      if line = [] then lineEvents inBlock rest
      else if !inBlock then .lineOutsideBlock number :: lineEvents inBlock rest
      else
        match Line.classify line with
        | .other => .lineIgnored number line :: lineEvents inBlock rest
        | _ => lineEvents inBlock rest

/-- The events of reading the blocks of a filter. -/
def readingEvents (filter : Text) : List Log.Event := lineEvents false (Text.numberedLines filter)

/-- The event of deciding on an item. -/
def decisionEvent (blocks : List Block) (i : Item) : Log.Event :=
  match firstMatch? blocks i with
  | some b => .blockMatched b.line b.visibility i.baseType
  | none => .noBlockMatched i.baseType

/-- The events of a verdict. Without a base type the filter is not read. -/
def verdictEvents (filter : Text) (i : Item) : List Log.Event :=
  if i.hasBaseType then readingEvents filter ++ [decisionEvent (blocks filter) i] else []

end LootFilter.Filter
