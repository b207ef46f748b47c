import LootFilter.Filter.Block
import LootFilter.Report.Diagnostic
import LootFilter.Text.Similarity

/-!
# Checking a filter

A filter is checked without an item, in one pass over its lines. The check is stricter than the
evaluation: it reports lines in front of the first block, blocks without a condition, and arguments
that the evaluation would pass over.

A line counts as a condition of its block as soon as its first word is the keyword of a property,
even if the rest of the line is wrong and reported for that.

## Main definitions

* `Check.lineProblems` — the findings on the arguments of a single line
* `Check.diagnosticsFrom` — the pass over the lines
* `Filter.check` — the report on a filter
-/

namespace LootFilter

namespace Check

/-- The least similarity of a palette name to an unknown name that it can be suggested for. -/
def suggestionThreshold : Float := 0.8

/-- The palette colour whose name is most similar to a word, if one is similar enough. Of several
equally similar ones it is the last of the palette. -/
def suggestion? (word : Text) : Option Beam :=
  let scored := Beam.all.map fun b =>
    (b, Similarity.jaroWinkler word.lowercase b.name.lowercase)
  let best := scored.foldl (fun (best : Option (Beam × Float)) (candidate : Beam × Float) =>
    if suggestionThreshold ≤ candidate.2 then
      match best with
      | some b => if b.2 ≤ candidate.2 then some candidate else best
      | none => some candidate
    else best) none
  best.map (·.1)

/-- The findings on an operator and a value of a condition on a number. -/
def operandProblems (p : NumberProperty) (symbol value : Text) : List Problem :=
  (if (Operator.ofSymbol? symbol).isNone then [.invalidOperator symbol p] else []) ++
    match Literal.integer? value with
    | some n => if n < 0 then [.negativeValue p] else []
    | none => [.notANumber value p]

/-- The findings on a condition on a number. -/
def numberProblems (p : NumberProperty) (rest : Text) : List Problem :=
  match Text.words rest with
  | symbol :: value :: extra =>
    operandProblems p symbol value ++ if extra.isEmpty then [] else [.extraValue p]
  | _ => [.incompleteCondition p]

/-- Whether a word is a channel that can be drawn. -/
def isChannel (word : Text) : Bool :=
  match Literal.integer? word with
  | some n => 0 ≤ n && n ≤ 255
  | none => false

/-- The findings on a directive that sets a colour. -/
def colorProblems (d : ColorDirective) (rest : Text) : List Problem :=
  let channels := Text.words rest
  (if channels.length = 3 ∨ channels.length = 4 then [] else [.channelCount d]) ++
    (channels.filter (!isChannel ·)).map (.invalidChannel · d)

/-- The findings on a font size. Only the first word counts. -/
def fontSizeProblems (rest : Text) : List Problem :=
  match (Text.words rest).head?.bind Literal.integer? with
  | some n => if minFontSize ≤ n ∧ n ≤ maxFontSize then [] else [.fontSizeOutOfRange]
  | none => [.fontSizeOutOfRange]

/-- The findings on a condition on a text: words without quotes become alternatives, which is
rarely meant. -/
def textProblems (p : TextProperty) (rest : Text) : List Problem :=
  let value := (Condition.splitOperator rest).2
  if !value.contains '"' && 1 < (Text.words value).length then [.unquotedWords p] else []

/-- The findings on a beam. -/
def beamProblems (rest : Text) : List Problem :=
  match (Text.words rest).head? with
  | none => [.missingBeam]
  | some name =>
    if (Beam.ofName? name).isSome then [] else [.unknownBeam name (suggestion? name)]

/-- The findings on a property and its arguments. Rarities are single words, and no finding is
reported on them. -/
def propertyProblems (p : Property) (rest : Text) : List Problem :=
  match p with
  | .text .rarity => []
  | .text p => textProblems p rest
  | .number p => numberProblems p rest

/-- The findings on a keyword and its arguments. -/
def keywordProblems (keyword rest : Text) : List Problem :=
  if keyword = "Show" ∧ rest = [] then [.headerWithComment .shown]
  else if keyword = "Hide" ∧ rest = [] then [.headerWithComment .hidden]
  else if keyword = "SetFontSize" then fontSizeProblems rest
  else if keyword = "PlayEffect" then beamProblems rest
  else
    match ColorDirective.ofKeyword? keyword with
    | some d => colorProblems d rest
    | none =>
      match Property.ofKeyword? keyword with
      | some p => propertyProblems p rest
      | none => []

/-- The findings on a line without its comment, apart from the lines around it. -/
def lineProblems (line : Text) : List Problem :=
  match Text.firstWord? line with
  | some (keyword, rest) => keywordProblems keyword rest
  | none => []

/-- Whether the first word of a line is the keyword of a property. -/
def namesProperty (line : Text) : Bool :=
  match Text.firstWord? line with
  | some (keyword, _) => (Property.ofKeyword? keyword).isSome
  | none => false

/-- Where the pass over a filter stands. -/
inductive Place
  /-- In front of the first block. -/
  | outside
  /-- In a block; the flag tells whether a condition has been seen. -/
  | inside (hasCondition : Bool)
  deriving Repr, DecidableEq

namespace Place

/-- Whether the pass stands in a block without a condition. -/
def lacksCondition (p : Place) : Bool := p == .inside false

/-- The place after a line that is no header. -/
def after (p : Place) (line : Text) : Place :=
  match p with
  | .outside => .outside
  | .inside hasCondition => .inside (hasCondition || namesProperty line)

/-- The findings at the header of the next block. -/
def atHeader (p : Place) (number : Nat) : List Diagnostic :=
  if p.lacksCondition then [⟨number - 1, .previousBlockEmpty⟩] else []

/-- The findings at the end of a filter whose last line has the given number. -/
def atEnd (p : Place) (lastLine : Nat) : List Diagnostic :=
  if p.lacksCondition then [⟨lastLine, .finalBlockEmpty⟩] else []

/-- The findings on a line for standing where it stands. -/
def atLine (p : Place) (number : Nat) : List Diagnostic :=
  if p = .outside then [⟨number, .outsideBlock⟩] else []

end Place

/-- The findings of the pass over some numbered lines. It starts at a place, after the line with
number `lastLine`. Blank lines and comments are passed over. -/
def diagnosticsFrom (place : Place) (lastLine : Nat) : List (Text × Nat) → List Diagnostic
  | [] => place.atEnd lastLine
  | (raw, number) :: rest =>
    let line := Text.withoutComment raw
    if line = [] then diagnosticsFrom place number rest
    else if (Visibility.ofLine? raw).isSome then
      place.atHeader number ++ diagnosticsFrom (.inside false) number rest
    else
      place.atLine number ++ (lineProblems line).map (⟨number, ·⟩) ++
        diagnosticsFrom (place.after line) number rest

end Check

/-- The report on a filter. -/
def Filter.check (filter : Text) : Report :=
  ⟨Check.diagnosticsFrom .outside 0 (Text.numberedLines filter)⟩

end LootFilter
