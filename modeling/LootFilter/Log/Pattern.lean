import LootFilter.Number.Hexadecimal
import LootFilter.Number.Literal
import LootFilter.Text.Alphanumeric
import LootFilter.Text.Lowercase

/-!
# Patterns

A setting about log events can ask for a value of a detail by a regular expression. This module
tells which texts are expressions that can be used. What stands in such a setting holds no comma, no
equals sign and no closing brace, so that counted repetitions are always incomplete.

An expression is matched by characters or by bytes. By characters, nothing can be asked for that
takes tables about scripts: classes of characters by an escape, letters of either case, and the
edges of words. By bytes, only what matches whole characters can be used.

## Main definitions

* `Pattern.Modes`, `Pattern.Modes.admits` — what can be asked for under some switches
* `Pattern.setFrom?` — reading a set between square brackets
* `Pattern.heightFrom?` — reading an expression
* `Pattern.isExpression`, `Pattern.isValue` — whether a text can be asked for as a value
-/

namespace LootFilter.Pattern

/-! ### Modes -/

/-- The ways of reading and matching that decide on what can be asked for. -/
structure Modes where
  /-- Blanks and comments are passed over. -/
  spaced : Bool := false
  /-- Letters match in either case. -/
  folded : Bool := false
  /-- The text is matched by characters rather than by bytes. -/
  byCharacter : Bool := true
  deriving Repr, DecidableEq

/-- What a character or an escape stands for. -/
inductive Element
  /-- A character; whether it is written by two hexadecimal digits. -/
  | character (c : Char) (byNumber : Bool)
  /-- Any character. -/
  | any
  /-- The start or the end of a line or of the text. -/
  | edge
  /-- The start or the end of a word, or neither. -/
  | wordEdge
  /-- A class of characters; whether it is the others that match. -/
  | kind (negated : Bool)
  deriving Repr, DecidableEq

namespace Modes

/-- Whether an element can be asked for. -/
def admits (m : Modes) : Element → Bool
  | .character c byNumber => if m.byCharacter then !m.folded else !byNumber || c.toNat < 0x80
  | .any => m.byCharacter
  | .edge => true
  | .wordEdge => !m.byCharacter
  | .kind negated => !m.byCharacter && !negated

/-- Whether an element can stand in a set. -/
def admitsInSet (m : Modes) : Element → Bool
  | .character c _ => if m.byCharacter then !m.folded else c.toNat < 0x80
  | .kind negated => !m.byCharacter && !negated
  | .any | .edge | .wordEdge => false

/-- Whether an ASCII class by name can stand in a set. -/
def admitsNamed (m : Modes) (negated : Bool) : Bool :=
  if m.byCharacter then !m.folded else !negated

/-- The modes after a switch is turned on or off. Other letters switch what does not matter here. -/
def turned (m : Modes) (on : Bool) : Char → Modes
  | 'x' => { m with spaced := on }
  | 'i' => { m with folded := on }
  | 'u' => { m with byCharacter := on }
  | _ => m

/-- The modes after some switches; those behind the hyphen are turned off. -/
def switched (m : Modes) (on : Bool) : Text → Modes
  | [] => m
  | '-' :: rest => m.switched false rest
  | c :: rest => (m.turned on c).switched on rest

end Modes

/-- The text from the next character that is neither blank nor in a comment, which goes from a
number sign to the end of the line. -/
def afterBlanks (inComment : Bool) : Text → Text
  | [] => []
  | c :: rest =>
    if inComment then afterBlanks (c != '\n') rest
    else if c = '#' then afterBlanks true rest
    else if isBlank c then afterBlanks false rest
    else c :: rest

/-- The text from the next character that is read. -/
def Modes.next (m : Modes) (t : Text) : Text := if m.spaced then afterBlanks false t else t

/-- The next character that is read, as far as it can be foreseen: only the sign of one comment is
passed over. -/
def Modes.foreseen? (m : Modes) (t : Text) : Option Char :=
  if m.spaced then
    let behind := t.dropWhile isBlank
    let behind := if behind.head? = some '#' then behind.tail.dropWhile isBlank else behind
    if behind.isEmpty then t.head? else behind.head?
  else t.head?

/-! ### Escapes -/

/-- The characters of the escapes by a single letter. -/
def letterEscapes : List (Char × Char) :=
  [('a', '\x07'), ('f', '\x0c'), ('t', '\t'), ('n', '\n'), ('r', '\r'), ('v', '\x0b')]

/-- What the escape by one character stands for. Letters and digits have a meaning of their own or
none; the angle brackets are edges of words, and other ASCII characters stand for themselves. -/
def escapeOf? (c : Char) : Option Element :=
  if ['d', 's', 'w'].contains c then some (.kind false)
  else if ['D', 'S', 'W'].contains c then some (.kind true)
  else if c = 'A' ∨ c = 'z' then some .edge
  else if ['b', 'B', '<', '>'].contains c then some .wordEdge
  else if c.isAlphanum then (letterEscapes.lookup c).map (.character · false)
  else if c.toNat < 0x80 then some (.character c false)
  else none

/-- Some hexadecimal digits at the start of a text, and what follows them. -/
def digits? (m : Modes) : Nat → Text → Option (Text × Text)
  | 0, t => some ([], t)
  | n + 1, t =>
    match m.next t with
    | [] => none
    | c :: rest =>
      if (Hexadecimal.digit? c).isNone then none
      else (digits? m n rest).map fun (digits, rest) => (c :: digits, rest)

/-- The character by a number of some digits at the start of a text, and what follows it. -/
def numbered? (m : Modes) (count : Nat) (t : Text) : Option (Element × Text) := do
  let (digits, rest) ← digits? m count t
  let c ← Hexadecimal.number? digits >>= Hexadecimal.character?
  return (.character c (count == 2), rest)

/-- The element at the start of a text behind a backslash, and what follows it. -/
def escapedFrom? (m : Modes) : Text → Option (Element × Text)
  | [] => none
  | 'x' :: rest => numbered? m 2 rest
  | 'u' :: rest => numbered? m 4 rest
  | 'U' :: rest => numbered? m 8 rest
  | c :: rest => (escapeOf? c).map (·, rest)

/-! ### Sets -/

/-- The names of ASCII classes. -/
def classNames : List Text :=
  ["alnum", "alpha", "ascii", "blank", "cntrl", "digit", "graph", "lower", "print", "punct",
    "space", "upper", "word", "xdigit"].map String.toList

/-- The ASCII class at the start of a text behind an opening bracket, if there is one: whether it is
the others that match, and what follows. -/
def namedFrom? : Text → Option (Bool × Text)
  | ':' :: rest =>
    let negated := rest.head? == some '^'
    let rest := if negated then rest.tail else rest
    match rest.dropWhile (· != ':') with
    | ':' :: ']' :: behind =>
      if classNames.contains (rest.takeWhile (· != ':')) then some (negated, behind) else none
    | _ => none
  | _ => none

/-- How deep some things next to each other are nested: one of them counts as itself, and several as
one more level. -/
def heightOf : List Nat → Nat
  | [] => 0
  | [h] => h
  | hs => hs.foldl max 0 + 1

/-- What has been read of a set: how deep its members are nested since the last sign that combines
sets, and how deep the sets in front of that sign are. -/
structure OpenSet where
  members : List Nat := []
  left : Option Nat := none

/-- How deep a set is nested. -/
def OpenSet.height (s : OpenSet) : Nat :=
  match s.left with
  | none => heightOf s.members
  | some h => max h (heightOf s.members) + 1

/-- The set with one more member. -/
def OpenSet.add (s : OpenSet) (h : Nat) : OpenSet := { s with members := h :: s.members }

/-- How far a set has been read. -/
inductive Progress
  /-- A caret may follow. -/
  | opened
  /-- Hyphens, or a bracket in front of them, stand for themselves. -/
  | started
  /-- There are members. -/
  | inside
  deriving Repr, DecidableEq

/-- The element at the start of a text in a set, and what follows it. -/
def elementFrom? (m : Modes) : Text → Option (Element × Text)
  | [] => none
  | '\\' :: rest => escapedFrom? m rest
  | c :: rest => some (.character c false, rest)

/-- Whether two elements are the ends of a range. -/
def isRange : Element → Element → Bool
  | .character a _, .character b _ => a ≤ b
  | _, _ => false

/-- What follows the member at the start of a text in a set: an element or a range of characters. -/
def afterMember? (m : Modes) (t : Text) : Option Text := do
  let (first, rest) ← elementFrom? m t
  if !m.admitsInSet first then none
  else
    match m.next rest with
    | [] => none
    | '-' :: behind =>
      if m.foreseen? behind = some ']' ∨ m.foreseen? behind = some '-' then some ('-' :: behind)
      else
        let (last, rest) ← elementFrom? m (m.next behind)
        if m.admitsInSet last && isRange first last then some rest else none
    | rest => some rest

/-- Reads a set from some point on, inside of other sets: how deep it is nested, and what follows
it. Fuel bounds the characters. -/
def setFrom? (fuel : Nat) (m : Modes) (p : Progress) (s : OpenSet) (outer : List OpenSet)
    (t : Text) : Option (Nat × Text) :=
  match fuel with
  | 0 => none
  | fuel + 1 =>
    match m.next t with
    | [] => none
    | c :: rest =>
      let itself := m.admitsInSet (.character c false)
      if p = .opened ∧ c = '^' then
        if m.byCharacter then setFrom? fuel m .started s outer rest else none
      else if p ≠ .inside ∧ c = '-' then
        if itself then setFrom? fuel m .started (s.add 0) outer rest else none
      else if p ≠ .inside ∧ s.members = [] ∧ c = ']' then
        if itself then setFrom? fuel m .inside (s.add 0) outer rest else none
      else if c = ']' then
        match outer with
        | [] => some (s.height + 1, rest)
        | o :: outer => setFrom? fuel m .inside (o.add (s.height + 1)) outer rest
      else if c = '[' then
        match namedFrom? rest with
        | some (negated, rest) =>
          if m.admitsNamed negated then setFrom? fuel m .inside (s.add 0) outer rest else none
        | none => setFrom? fuel m .opened {} (s :: outer) rest
      else if ['&', '-', '~'].contains c ∧ rest.head? = some c then
        setFrom? fuel m .inside { left := some s.height } outer rest.tail
      else
        match afterMember? m (c :: rest) with
        | some rest => setFrom? fuel m .inside (s.add 0) outer rest
        | none => none

/-! ### Groups -/

/-- Whether letters and hyphens are switches: each letter once, and behind the one hyphen at least
one. -/
def areSwitches (t : Text) : Bool :=
  let letters := t.filter (· != '-')
  letters.all ("imsUuRx".toList.contains ·) && letters.eraseDups.length == letters.length &&
    t.length ≤ letters.length + 1 && t.getLast? != some '-'

/-- Whether a text can be the name of a group. -/
def isGroupName : Text → Bool
  | [] => false
  | c :: rest =>
    (c == '_' || isAlphabetic c) &&
      rest.all fun c => c == '_' || c == '.' || c == '[' || c == ']' || isAlphanumeric c

/-- What an opening parenthesis starts. -/
inductive Opening
  /-- Switches for the rest of the group around it. -/
  | switches (modes : Modes)
  /-- A group, which may have a name. -/
  | group (modes : Modes) (name : Option Text)

/-- What a text behind an opening parenthesis starts, and what follows its head. -/
def openingFrom? (m : Modes) (t : Text) : Option (Opening × Text) :=
  let named (t : Text) : Option (Opening × Text) :=
    let name := t.takeWhile (· != '>')
    match t.dropWhile (· != '>') with
    | '>' :: rest => if isGroupName name then some (.group m (some name), rest) else none
    | _ => none
  match t with
  | '?' :: 'P' :: '<' :: rest => named rest
  | '?' :: '<' :: rest => named rest
  | '?' :: rest =>
    let switches := rest.takeWhile fun c => c != ':' && c != ')'
    let modes := m.switched true switches
    if !areSwitches switches then none
    else
      match rest.dropWhile fun c => c != ':' && c != ')' with
      | ':' :: rest => some (.group modes none, rest)
      | ')' :: rest => if switches.isEmpty then none else some (.switches modes, rest)
      | _ => none
  | t => some (.group m none, t)

/-- What has been read of a group: how deep its earlier alternatives are nested, and the items of
the last one, latest first. Switches are items without depth, which cannot be repeated. -/
structure Group where
  modes : Modes := {}
  alternatives : List Nat := []
  items : List (Option Nat) := []

namespace Group

/-- How deep the last alternative is nested. -/
def lastHeight (g : Group) : Nat := heightOf (g.items.map (·.getD 0))

/-- How deep what stands in a group is nested. -/
def height (g : Group) : Nat :=
  if g.alternatives.isEmpty then g.lastHeight
  else (g.lastHeight :: g.alternatives).foldl max 0 + 1

/-- The group with one more item. -/
def add (g : Group) (h : Nat) : Group := { g with items := some h :: g.items }

/-- The group with one more alternative. -/
def alternate (g : Group) : Group :=
  { g with alternatives := g.lastHeight :: g.alternatives, items := [] }

/-- The group with its last item repeated, if there is one. -/
def repeat? (g : Group) : Option Group :=
  match g.items with
  | some h :: items => some { g with items := some (h + 1) :: items }
  | _ => none

end Group

/-- What a character stands for outside of sets, and what follows it. -/
def signFrom? (m : Modes) (c : Char) (rest : Text) : Option (Element × Text) :=
  match c with
  | '\\' => escapedFrom? m rest
  | '.' => some (.any, rest)
  | '^' | '$' => some (.edge, rest)
  | c => some (.character c false, rest)

/-- Reads an expression from some point on, inside of some groups: how deep it is nested. Groups
have different names. Fuel bounds the characters. -/
def heightFrom? (fuel : Nat) (names : List Text) (g : Group) (outer : List Group) (t : Text) :
    Option Nat :=
  match fuel with
  | 0 => none
  | fuel + 1 =>
    match g.modes.next t with
    | [] => if outer.isEmpty then some g.height else none
    | '(' :: rest =>
      match openingFrom? g.modes (g.modes.next rest) with
      | none => none
      | some (.switches modes, rest) =>
        heightFrom? fuel names { g with modes, items := none :: g.items } outer rest
      | some (.group modes name, rest) =>
        if name.any names.contains then none
        else heightFrom? fuel (name.toList ++ names) { modes } (g :: outer) rest
    | ')' :: rest =>
      match outer with
      | [] => none
      | o :: outer => heightFrom? fuel names (o.add (g.height + 1)) outer rest
    | '|' :: rest => heightFrom? fuel names g.alternate outer rest
    | '[' :: rest =>
      match setFrom? (rest.length + 1) g.modes .opened {} [] rest with
      | some (h, rest) => heightFrom? fuel names (g.add h) outer rest
      | none => none
    | '{' :: _ => none
    | c :: rest =>
      if ['?', '*', '+'].contains c then
        match g.repeat? with
        | some g =>
          heightFrom? fuel names g outer (if rest.head? = some '?' then rest.tail else rest)
        | none => none
      else
        match signFrom? g.modes c rest with
        | some (e, rest) =>
          if g.modes.admits e then heightFrom? fuel names (g.add 0) outer rest else none
        | none => none

/-! ### Values -/

/-- How deep an expression may be nested. -/
def heightLimit : Nat := 250

/-- Whether a text is an expression that can be used. -/
def isExpression (t : Text) : Bool :=
  (heightFrom? (t.length + 1) [] {} [] t).any (· ≤ heightLimit)

/-- Whether a text is a number without a sign in front. -/
def isDecimal (t : Text) : Bool :=
  let mantissa := t.takeWhile fun c => c != 'e' && c != 'E'
  let digits := mantissa.filter (· != '.')
  (Literal.natural? digits).isSome && mantissa.length ≤ digits.length + 1 &&
    (mantissa.length == t.length || (Literal.signed? (t.drop (mantissa.length + 1))).isSome)

/-- Whether a text is a number with a plus sign in front, infinite ones and none included. -/
def isPositive : Text → Bool
  | '+' :: t =>
    isDecimal t || ["inf", "infinity", "nan"].any fun (w : String) => Text.sameIgnoringAsciiCase t w
  | _ => false

/-- Whether a text can be asked for as a value: it is a number or an expression. Every number
without a plus sign is one. -/
def isValue (t : Text) : Bool := isPositive t || isExpression t

end LootFilter.Pattern
