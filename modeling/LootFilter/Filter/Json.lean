import LootFilter.Filter.Verdict
import LootFilter.Json.Basic

/-!
# Filters in JSON

Conditions, styles, blocks and verdicts as JSON values, for programs that read the results. Colours
are written in the notation of style sheets and beams in hexadecimal notation.

## Main definitions

* `Condition.toJson`, `Style.toJson`, `Block.toJson`, `Verdict.toJson`
-/

namespace LootFilter

/-- The value of a condition: a text, a list of texts, or a number. -/
def Value.toJson : Value → Json
  | .text t => .string t
  | .list ts => .array (ts.map .string)
  | .number n => .integer n
  | .malformed digits => .string digits

/-- A condition with its property, operator and value. -/
def Condition.toJson (c : Condition) : Json :=
  .object [("type", .string c.property.keyword), ("operator", .string c.operator.symbol),
    ("value", c.value.toJson)]

/-- A style. The beam is left out if there is none. -/
def Style.toJson (s : Style) : Json :=
  .object ([(("fontSize" : Text), Json.integer s.fontSize),
    ("textColor", .string s.textColor.css),
    ("borderColor", .string s.borderColor.css),
    ("backgroundColor", .string s.backgroundColor.css)] ++
    Json.optionalField "beam" (fun b => .string b.hex) s.beam)

/-- A block with its header line, conditions and style. -/
def Block.toJson (b : Block) : Json :=
  .object [("line", .ofNat b.line), ("visibility", .string b.visibility.keyword),
    ("conditions", .array (b.conditions.map Condition.toJson)), ("style", b.style.toJson)]

/-- A verdict. -/
def Verdict.toJson (v : Verdict) : Json :=
  .object [("isHidden", .bool v.isHidden), ("style", v.style.toJson),
    ("matchedLine", .ofOption .ofNat v.line)]

end LootFilter
