import LootFilter.Text.Basic

/-!
# File trees

Files and directories, seen from a working directory. A path is walked name by name; what the walk
meets decides which fault is told. The content of a file is a text, unless its bytes encode none.

The directories above the working directory are there, and nothing is known about what else they
hold.

## Main definitions

* `FileTree`, `FileTree.Entry` — files and directories by location
* `FileTree.read`, `FileTree.isPresent` — what a path leads to
* `FileTree.createParents` — a tree with the directories on the way to a file
* `FileTree.write` — a tree with a new file

## Main results

* `FileTree.get?_insert_self`, `FileTree.get?_insert_of_ne` — what a new entry changes
* `FileTree.get?_createAll_of_isSome` — making directories changes nothing that is there
-/

namespace LootFilter

/-- Why a path cannot be used. -/
inductive FileFault
  /-- There is nothing at the path. -/
  | notFound
  /-- There is something where a directory is to be made. -/
  | alreadyExists
  /-- The path leads through a file. -/
  | notDirectory
  /-- There is a directory where a file is needed. -/
  | isDirectory
  /-- A name in the path, or the path, is too long. -/
  | nameTooLong
  /-- The path has a character that ends texts. -/
  | hasNul
  /-- The bytes encode no text. -/
  | notText
  /-- Any other fault, in the words of the system. -/
  | other (text : Text)
  deriving Repr, DecidableEq

/-- The wording of a fault. -/
def FileFault.message : FileFault → Text
  | .notFound => "No such file or directory (os error 2)"
  | .alreadyExists => "File exists (os error 17)"
  | .notDirectory => "Not a directory (os error 20)"
  | .isDirectory => "Is a directory (os error 21)"
  | .nameTooLong => "File name too long (os error 36)"
  | .hasNul => "file name contained an unexpected NUL byte"
  | .notText => "stream did not contain valid UTF-8"
  | .other text => text

/-- What stands at a location. -/
inductive FileTree.Entry
  /-- A file; its content is missing if its bytes encode no text. -/
  | file (content : Option Text)
  /-- A directory. -/
  | directory
  deriving Repr, DecidableEq

/-- A location: names from the working directory on. The name `/` leads to the root. -/
abbrev FileTree.Location := List Text

/-- Files and directories by location. -/
structure FileTree where
  /-- The entries. A location comes with its depth, which tells it apart from most others. -/
  entries : List ((Nat × FileTree.Location) × FileTree.Entry) := []
  deriving Repr, DecidableEq

namespace FileTree

/-- Whether a location is the root, the working directory, or above the working directory. -/
def isOuter (l : Location) : Bool := l == [['/']] || l.all (· == ['.', '.'])

/-- What stands at a location. -/
def get? (t : FileTree) (l : Location) : Option Entry :=
  if isOuter l then some .directory else t.entries.lookup (l.length, l)

/-- The tree with an entry at a location. -/
def insert (t : FileTree) (l : Location) (e : Entry) : FileTree :=
  ⟨((l.length, l), e) :: t.entries.filter (·.1 != (l.length, l))⟩

/-- The limit for the length of a name. -/
def nameLimit : Nat := 255

/-- The limit for the length of a path. -/
def pathLimit : Nat := 4095

/-- The names in a path. Empty ones stand between neighbouring slashes and at the ends. -/
def names (path : Text) : List Text := path.splitOn '/'

/-- Where the walk along a path begins. -/
def origin (path : Text) : Location := if path.head? = some '/' then [['/']] else []

/-- The location above a location. -/
def above : Location → Location
  | [] => [['.', '.']]
  | [['/']] => [['/']]
  | l => if l.getLast? = some ['.', '.'] then l ++ [['.', '.']] else l.dropLast

/-- Where a name leads from a directory; there need not be anything yet. -/
def step (t : FileTree) (l : Location) (name : Text) : Except FileFault Location :=
  match t.get? l with
  | none => .error .notFound
  | some (.file _) => .error .notDirectory
  | some .directory =>
    if name = [] ∨ name = ['.'] then .ok l
    else if name = ['.', '.'] then .ok (above l)
    else if nameLimit < Text.byteCount name then .error .nameTooLong
    else .ok (l ++ [name])

/-- Where names lead from a location. -/
def walk (t : FileTree) : Location → List Text → Except FileFault Location
  | l, [] => .ok l
  | l, name :: rest =>
    match t.step l name with
    | .ok l => walk t l rest
    | .error e => .error e

/-- The fault of a path that cannot be walked at all. -/
def pathFault? (path : Text) : Option FileFault :=
  if path = [] then some .notFound
  else if path.contains '\x00' then some .hasNul
  else if pathLimit < Text.byteCount path then some .nameTooLong
  else none

/-- Where a path leads; there need not be anything yet. -/
def locate (t : FileTree) (path : Text) : Except FileFault Location :=
  match pathFault? path with
  | some e => .error e
  | none => t.walk (origin path) (names path)

/-- The content of the file at a path. -/
def read (t : FileTree) (path : Text) : Except FileFault Text :=
  match t.locate path with
  | .error e => .error e
  | .ok l =>
    match t.get? l with
    | none => .error .notFound
    | some .directory => .error .isDirectory
    | some (.file none) => .error .notText
    | some (.file (some content)) => .ok content

/-- Whether a path leads to something. -/
def isPresent (t : FileTree) (path : Text) : Bool :=
  match t.locate path with
  | .ok l => (t.get? l).isSome
  | .error _ => false

/-- Whether a name leads somewhere else. -/
def isProper (name : Text) : Bool := name != [] && name != ['.']

/-- The names in a path that lead somewhere else. -/
def properNames (path : Text) : List Text := (names path).filter isProper

/-- The path of the directory that a path leads into: it ends with the last but one of the proper
names. -/
def directoryPath (path : Text) : Text :=
  let withoutImproper (ns : List Text) := (ns.reverse.dropWhile (!isProper ·)).reverse
  Text.joined "/" (withoutImproper (withoutImproper (names path)).dropLast)

/-- Makes the directories with some names, one in the other, where they are missing, and tells the
fault that stops it. What has been made before stays. The flag tells whether something has been
made: after that a file in the way is found when its own name is to be made, and not when the path
is walked. -/
def createAll (t : FileTree) (made : Bool) (l : Location) : List Text → FileTree × Option FileFault
  | [] => (t, none)
  | name :: rest =>
    if name = ['.', '.'] then createAll t made (above l) rest
    else if nameLimit < Text.byteCount name then (t, some .nameTooLong)
    else
      match t.get? (l ++ [name]) with
      | some .directory => createAll t made (l ++ [name]) rest
      | some (.file _) => (t, some (if made || rest.isEmpty then .alreadyExists else .notDirectory))
      | none => createAll (t.insert (l ++ [name]) .directory) true (l ++ [name]) rest

/-- Makes the directories on the way to a file, and tells the fault that stops it. -/
def createParents (t : FileTree) (path : Text) : FileTree × Option FileFault :=
  if pathLimit < Text.byteCount (directoryPath path) then (t, some .nameTooLong)
  else createAll t false (origin path) (properNames path).dropLast

/-- A path without the slashes at its end. -/
def withoutTrailingSlashes (path : Text) : Text := (path.reverse.dropWhile (· = '/')).reverse

/-- The fault of writing a file at a name in a directory with a slash behind it, which is refused
whatever the name is. -/
def slashFault (t : FileTree) (l : Location) : FileFault :=
  match t.step l [] with
  | .ok _ => .isDirectory
  | .error e => e

/-- The tree with a file at a path. -/
def write (t : FileTree) (path content : Text) : Except FileFault FileTree :=
  match pathFault? path with
  | some e => .error e
  | none =>
    let ns := names (withoutTrailingSlashes path)
    match t.walk (origin path) ns.dropLast with
    | .error e => .error e
    | .ok l =>
      if path.getLast? = some '/' then .error (t.slashFault l)
      else
        match t.step l (ns.getLast?.getD []) with
        | .error e => .error e
        | .ok l =>
          if t.get? l = some .directory then .error .isDirectory
          else .ok (t.insert l (.file (some content)))

/-! ### Laws -/

theorem get?_insert_self {t : FileTree} {l : Location} (e : Entry) (h : isOuter l = false) :
    (t.insert l e).get? l = some e := by
  simp [get?, insert, h]

theorem lookup_filter_of_ne {α β : Type} [BEq α] [LawfulBEq α] {entries : List (α × β)} {k m : α}
    (h : m ≠ k) : (entries.filter (·.1 != k)).lookup m = entries.lookup m := by
  induction entries with
  | nil => rfl
  | cons entry entries ih =>
    obtain ⟨k', e⟩ := entry
    by_cases hk : k' = k
    · subst hk
      have : (m == k') = false := by simpa using h
      simp [List.lookup_cons, this, ih]
    · have : (k' != k) = true := by simpa using hk
      simp only [List.filter_cons, this, if_true, List.lookup_cons, ih]

/-- A new entry changes nothing elsewhere. -/
theorem get?_insert_of_ne {t : FileTree} {l m : Location} (e : Entry) (h : m ≠ l) :
    (t.insert l e).get? m = t.get? m := by
  have hk : (m.length, m) ≠ (l.length, l) := by simp [h]
  have : ((m.length, m) == (l.length, l)) = false := by simpa using hk
  simp only [get?, insert, List.lookup_cons, this, lookup_filter_of_ne hk]

/-- Making directories changes nothing that is there. -/
theorem get?_createAll_of_isSome {t : FileTree} {made : Bool} {l m : Location} {ns : List Text}
    (h : (t.get? m).isSome = true) : (t.createAll made l ns).1.get? m = t.get? m := by
  induction ns generalizing t made l with
  | nil => rfl
  | cons name rest ih =>
    simp only [createAll]
    split
    · exact ih h
    split
    · rfl
    split
    · exact ih h
    · rfl
    · next absent =>
      have hm : m ≠ l ++ [name] := by
        rintro rfl
        simp [absent] at h
      rw [ih (by rwa [get?_insert_of_ne _ hm]), get?_insert_of_ne _ hm]

end FileTree

end LootFilter
