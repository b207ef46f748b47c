import LootFilter.Proofs.FileTree.Writing

/-!
# What becomes of the files

Making directories puts directories where nothing was, and writing puts a file at the end of a path.
Nothing else changes: every other file has the content that it had, and no file or directory goes
away. A fault on the way does not undo the directories that have been made before it.

A file may also have another content in one tree than in another, while everything else is the same.
Then all paths lead to the same places, and what differs is read only where they lead to this file.

## Main definitions

* `FileTree.AddsDirectories` — one tree is another with directories where nothing was
* `FileTree.AddsDirectoriesBeside` — the same apart from a single location

## Main results

* `FileTree.AddsDirectories.get?_eq_file_iff` — added directories leave all files as they are
* `FileTree.addsDirectories_createParents` — making directories adds directories
* `FileTree.addsDirectoriesBeside_of_write` — writing changes what is at the end of the path
* `FileTree.read_insert_of_file` — another content for a file changes what is read there only
-/

namespace LootFilter.FileTree

variable {t u v : FileTree} {l m : Location} {path content : Text} {ns : List Text}

/-- What is at a location is what was there, or a directory where nothing was. -/
def KeepsOrMakes (t u : FileTree) (l : Location) : Prop :=
  u.get? l = t.get? l ∨ t.get? l = none ∧ u.get? l = some .directory

/-- One tree is another with directories where nothing was. -/
def AddsDirectories (t u : FileTree) : Prop := ∀ l, t.KeepsOrMakes u l

/-- One tree is another with directories where nothing was, apart from what is at a location. -/
def AddsDirectoriesBeside (t u : FileTree) (l : Location) : Prop := ∀ m, m ≠ l → t.KeepsOrMakes u m

theorem AddsDirectories.refl (t : FileTree) : t.AddsDirectories t := fun _ => Or.inl rfl

theorem AddsDirectories.trans (h : t.AddsDirectories u) (h' : u.AddsDirectories v) :
    t.AddsDirectories v := by
  intro l
  rcases h l with hsame | ⟨hnone, hmade⟩
  · rw [KeepsOrMakes, ← hsame]
    exact h' l
  · -- what the first step has made is there for the second one
    refine Or.inr ⟨hnone, ?_⟩
    rcases h' l with hsame | ⟨hnone', -⟩
    · rw [hsame, hmade]
    · exact absurd (hmade.symm.trans hnone') (by simp)

/-- Added directories leave all files as they are. -/
theorem AddsDirectories.get?_eq_file_iff (h : t.AddsDirectories u) {c : Option Text} :
    u.get? l = some (.file c) ↔ t.get? l = some (.file c) := by
  rcases h l with hsame | ⟨hnone, hmade⟩
  · rw [hsame]
  · simp [hnone, hmade]

theorem addsDirectories_insert (h : t.get? l = none) :
    t.AddsDirectories (t.insert l .directory) := by
  intro m
  by_cases hm : m = l
  · subst hm
    have houter : isOuter m = false := isOuter_of_get?_ne (t := t) (by simp [h])
    exact Or.inr ⟨h, get?_insert_self _ houter⟩
  · exact Or.inl (get?_insert_of_ne _ hm)

/-! ### Making directories -/

theorem addsDirectories_createAll (t : FileTree) (made : Bool) (l : Location) (ns : List Text) :
    t.AddsDirectories (t.createAll made l ns).1 := by
  induction ns generalizing t made l with
  | nil => exact .refl t
  | cons name ns ih =>
    rw [createAll]
    split
    · exact ih t made (above l)
    split
    · exact .refl t
    split
    · exact ih t made (l ++ [name])
    · exact .refl t
    · -- the one name that is missing becomes a directory, and the rest is made in it
      next hnone => exact (addsDirectories_insert hnone).trans (ih _ true (l ++ [name]))

/-- Making directories adds directories, whether or not a fault stops it. -/
theorem addsDirectories_createParents (t : FileTree) (path : Text) :
    t.AddsDirectories (t.createParents path).1 := by
  rw [createParents]
  split
  · exact .refl t
  · exact addsDirectories_createAll t false (origin path) (properNames path).dropLast

/-! ### Writing -/

/-- Writing changes nothing but what is at the end of the path. -/
theorem addsDirectoriesBeside_of_write (h : t.AddsDirectories u)
    (hwrite : u.write path content = .ok v) :
    ∃ l, v.locate path = .ok l ∧ v.get? l = some (.file (some content)) ∧
      t.AddsDirectoriesBeside v l := by
  have hkeeps := keepsDirectories_of_write hwrite
  obtain ⟨-, l, hlocate, hdirectory, rfl⟩ := write_eq_ok_iff.mp hwrite
  refine ⟨l, locate_of_keepsDirectories hkeeps hlocate,
    get?_insert_self _ (isOuter_of_get?_ne hdirectory), ?_⟩
  intro m hm
  rw [KeepsOrMakes, get?_insert_of_ne _ hm]
  exact h m

/-! ### Another content for a file -/

variable {c : Option Text}

/-- A step sees of a file only that it is one. -/
theorem step_insert_of_file (h : t.get? l = some (.file c)) (c' : Option Text) (m : Location)
    (name : Text) : (t.insert l (.file c')).step m name = t.step m name := by
  by_cases hm : m = l
  · subst hm
    have houter : isOuter m = false := isOuter_of_get?_ne (t := t) (by simp [h])
    rw [step, step, h, get?_insert_self _ houter]
  · rw [step, step, get?_insert_of_ne _ hm]

theorem walk_insert_of_file (h : t.get? l = some (.file c)) (c' : Option Text) (m : Location)
    (ns : List Text) : (t.insert l (.file c')).walk m ns = t.walk m ns := by
  induction ns generalizing m with
  | nil => rfl
  | cons name ns ih =>
    rw [walk, walk, step_insert_of_file h]
    cases t.step m name with
    | error e => rfl
    | ok m' => exact ih m'

/-- With another content for a file, all paths lead where they led before. -/
theorem locate_insert_of_file (h : t.get? l = some (.file c)) (c' : Option Text) (path : Text) :
    (t.insert l (.file c')).locate path = t.locate path := by
  rw [locate, locate]
  cases pathFault? path with
  | some e => rfl
  | none => exact walk_insert_of_file h c' _ _

/-- With another content for a file, a path that leads elsewhere is read as before. -/
theorem read_insert_of_file (h : t.get? l = some (.file c)) (c' : Option Text)
    (hpath : t.locate path ≠ .ok l) : (t.insert l (.file c')).read path = t.read path := by
  rw [read, read, locate_insert_of_file h]
  cases hlocate : t.locate path with
  | error e => rfl
  | ok m =>
    have hm : m ≠ l := by
      rintro rfl
      exact hpath hlocate
    simp only [get?_insert_of_ne _ hm]

end LootFilter.FileTree
