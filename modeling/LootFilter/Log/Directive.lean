import LootFilter.Log.Event
import LootFilter.Log.Pattern

/-!
# Log directives

A setting says which events are told: directives with commas between them, such as
`warn,pf::commands=debug`. A directive has a threshold and names the events that it is about: by the
part of the program that they come from, by a detail that they have, or by the task in which they
happen. The program has no tasks, so that a directive about a task, or about the value of a detail,
is about no event. Of the directives about an event the most specific one decides.

## Main definitions

* `Log.Directive` — a directive
* `Log.Directive.ofText?`, `Log.directivesOfSetting?` — reading directives
* `Log.Directive.isAbout`, `Log.decisive?`, `Log.tells` — which events are told
* `Log.lines` — the lines for some events

## Main results

* `Log.isAbout_of_decisive?`, `Log.decisive?_eq_none_iff` — an event is decided by a directive about
  it, if there is one
* `Log.tells_ofThreshold` — without other directives a threshold decides on all events
* `Log.directivesOfSetting?_name` — the name of a level is a setting
-/

namespace LootFilter.Log

/-- What a setting says about some events. -/
structure Directive where
  /-- The start of the name of the part of the program, if the directive is about one. -/
  target : Option Text := none
  /-- The task in which events happen, if the directive is about one. -/
  task : Option Text := none
  /-- The detail that events have, if the directive is about one. -/
  detail : Option Text := none
  /-- The value of the detail, if the directive is about one. -/
  value : Option Text := none
  /-- Which levels are told. -/
  threshold : Threshold := some .trace
  deriving Repr, DecidableEq

namespace Directive

/-- The directive about all events. -/
def ofThreshold (t : Threshold) : Directive := { threshold := t }

/-! ### Reading -/

/-- The parts of the text of a directive. -/
structure Parts where
  /-- What stands in front of the brackets and the equals sign. -/
  word : Option Text := none
  /-- What stands first between the brackets. -/
  task : Option Text := none
  /-- What stands between braces. -/
  detail : Option Text := none
  /-- What stands behind the equals sign. -/
  level : Option Text := none
  deriving Repr, DecidableEq

/-- Whether a directive can start with a character, unless it starts with a bracket. -/
def isStart (c : Char) : Bool := c == '-' || c == ':' || c == '_' || isAlphanumeric c

/-- The parts with what stands behind the closing bracket. -/
def Parts.afterBracket? (p : Parts) : Text → Option Parts
  | '=' :: level => some { p with level := some level }
  | rest => if Text.isBlankText rest then some p else none

/-- The parts with what stands behind the opening bracket. Without a task there are braces. -/
def Parts.afterOpeningBracket? (p : Parts) (text : Text) : Option Parts :=
  let task := text.takeWhile fun c => c != ']' && c != '{'
  match text.dropWhile fun c => c != ']' && c != '{' with
  | ']' :: rest => { p with task := some task }.afterBracket? rest
  | '{' :: rest =>
    let p := if task.isEmpty then p else { p with task := some task }
    match rest.dropWhile (· != '}') with
    | '}' :: ']' :: behind =>
      { p with detail := some (rest.takeWhile (· != '}')) }.afterBracket? behind
    | _ => none
  | _ => none

/-- The parts of a text that does not start with a blank. -/
def Parts.ofText? (text : Text) : Option Parts :=
  match text with
  | [] => none
  | '[' :: rest => Parts.afterOpeningBracket? {} rest
  | c :: _ =>
    if !isStart c then none
    else
      let word := text.takeWhile fun c => c != '=' && c != '['
      match text.dropWhile fun c => c != '=' && c != '[' with
      | '=' :: level => some { word := some word, level := some level }
      | '[' :: rest => Parts.afterOpeningBracket? { word := some word } rest
      | _ => some { word := some word }

/-- The directive of a word. A level is about all events, and any other word names a part of the
program. -/
def ofWord (word : Text) : Directive :=
  match thresholdOfWord? word with
  | some t => ofThreshold t
  | none => { target := some word }

/-- The threshold that a level stands for. All is told if there is none, or nothing in its place. -/
def thresholdOfLevel? : Option Text → Option Threshold
  | none | some [] => some (some .trace)
  | some word => thresholdOfWord? word

/-- A detail and its value, if there is one. -/
def detailOfText? (text : Text) : Option (Text × Option Text) :=
  match text.splitOn '=' with
  | name :: value :: _ => if Pattern.isValue value then some (name, some value) else none
  | _ => if text.isEmpty then none else some (text, none)

/-- The directive with some parts. -/
def ofParts? (p : Parts) : Option Directive :=
  match p with
  | ⟨some word, none, none, none⟩ => some (ofWord word)
  | ⟨target, task, none, level⟩ =>
    (thresholdOfLevel? level).map fun threshold => { target, task, threshold }
  | ⟨target, task, some text, level⟩ => do
    let (detail, value) ← detailOfText? text
    let threshold ← thresholdOfLevel? level
    return { target, task, detail := some detail, value, threshold }

/-- The pieces of another text at the places of some parts, which are parts of a text of some
length. -/
def Parts.cutFrom (p : Parts) (length : Nat) (text : Text) : Parts where
  word :=
    if p = { word := p.word } then p.word.map fun _ => text
    else p.word.map fun w => text.take w.length
  task := p.task.map fun t => (text.drop ((p.word.getD []).length + 1)).take t.length
  detail := p.detail.map fun d =>
    (text.drop ((p.word.getD []).length + (p.task.getD []).length + 2)).take d.length
  level := p.level.map fun l => text.drop (length - l.length)

/-- The directive of a text. Blanks in front are passed over when the parts are found, but not when
they are cut out: then a word starts with blanks, which no part of the program does, and a level
holds the equals sign. -/
def ofText? (text : Text) : Option Directive :=
  let trimmed := Text.trimStart text
  (Parts.ofText? trimmed).bind fun p => ofParts? (p.cutFrom trimmed.length text)

/-! ### The events of a directive -/

/-- Whether a directive is about an event. -/
def isAbout (d : Directive) (e : Event) : Bool :=
  d.task.isNone && d.value.isNone && d.target.all (·.isPrefixOf e.origin) &&
    d.detail.all e.hasDetail

/-- Whether a directive is at least as specific as another one. A longer name of a part of the
program is more specific, then a detail, and of two details the later one in the dictionary. -/
def isAsSpecificAs (d d' : Directive) : Bool :=
  let length (d : Directive) := d.target.map List.length
  if length d = length d' then
    match d.detail, d'.detail with
    | _, none => true
    | none, some _ => false
    | some name, some name' => !decide (name < name')
  else
    match length d, length d' with
    | _, none => true
    | none, some _ => false
    | some n, some n' => n' ≤ n

end Directive

/-- The more specific one of two directives, the first of which may be missing; of two that are as
specific as each other the second one. -/
def moreSpecific (best : Option Directive) (d : Directive) : Option Directive :=
  if best.all d.isAsSpecificAs then some d else best

/-- The most specific one of the directives about an event. -/
def decisive? (ds : List Directive) (e : Event) : Option Directive :=
  (ds.filter (·.isAbout e)).foldl moreSpecific none

/-- Whether an event is told. Without a directive about it, it is not. -/
def tells (ds : List Directive) (e : Event) : Bool :=
  (decisive? ds e).any (·.threshold.admits e.level)

/-- The lines for those of some events that are told. -/
def lines (ds : List Directive) (events : List Event) : List Text :=
  (events.filter (tells ds)).map Event.line

/-- The directives of a setting. One without directives asks for errors only. -/
def directivesOfSetting? (setting : Text) : Option (List Directive) :=
  match (setting.splitOn ',').filter (!·.isEmpty) with
  | [] => some [.ofThreshold (some .error)]
  | texts => texts.mapM Directive.ofText?

/-! ### Laws -/

theorem mem_or_of_foldl_moreSpecific {ds : List Directive} {best : Option Directive} {d : Directive}
    (h : ds.foldl moreSpecific best = some d) : d ∈ ds ∨ best = some d := by
  induction ds generalizing best with
  | nil => exact Or.inr h
  | cons d' ds ih =>
    rcases ih h with hd | hd
    · exact Or.inl (by simp [hd])
    · unfold moreSpecific at hd
      split at hd
      · exact Or.inl (by simp [Option.some.inj hd])
      · exact Or.inr hd

/-- An event is decided by one of the directives, and that is about it. -/
theorem isAbout_of_decisive? {ds : List Directive} {e : Event} {d : Directive}
    (h : decisive? ds e = some d) : d ∈ ds ∧ d.isAbout e = true := by
  rcases mem_or_of_foldl_moreSpecific h with hd | hd
  · exact List.mem_filter.1 hd
  · cases hd

theorem foldl_moreSpecific_eq_none_iff {ds : List Directive} {best : Option Directive} :
    ds.foldl moreSpecific best = none ↔ best = none ∧ ds = [] := by
  induction ds generalizing best with
  | nil => simp
  | cons d ds ih =>
    have : moreSpecific best d ≠ none := by
      unfold moreSpecific
      split
      · simp
      · rintro rfl
        simp_all
    simp [ih, this]

/-- No directive decides on an event if none is about it. -/
theorem decisive?_eq_none_iff {ds : List Directive} {e : Event} :
    decisive? ds e = none ↔ ∀ d ∈ ds, d.isAbout e = false := by
  simp [decisive?, foldl_moreSpecific_eq_none_iff, List.filter_eq_nil_iff]

/-- A threshold for all events decides on each of them by its level. -/
theorem tells_ofThreshold (t : Threshold) (e : Event) :
    tells [.ofThreshold t] e = t.admits e.level := by
  simp [tells, decisive?, moreSpecific, Directive.isAbout, Directive.ofThreshold]

/-- The name of a level is a setting. -/
theorem directivesOfSetting?_name (l : Level) :
    directivesOfSetting? l.name = some [.ofThreshold (some l)] := by
  cases l <;> decide

end LootFilter.Log
