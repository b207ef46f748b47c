import LootFilter.FileTree

/-!
# Writing to a path again and again

What a path leads to depends on the directories on its way alone. Neither making directories nor
writing a file takes a directory away, so a path leads to the same place before and after, and a
file that could be written once can be written again.

## Main definitions

* `FileTree.KeepsDirectories` — the directories of one tree are directories of another
* `FileTree.IsWritable` — a file can be written at a path, with the directories on the way to it

## Main results

* `FileTree.write_eq_ok_iff` — when writing succeeds, and what it changes
* `FileTree.createParents_of_keepsDirectories` — directories that have been made are found again
* `FileTree.IsWritable.after_write` — after writing, the content is there, and can be replaced
-/

namespace LootFilter.FileTree

variable {t t' u : FileTree} {l m : Location} {path content : Text} {ns : List Text}

/-- Every directory of one tree is a directory of another. -/
def KeepsDirectories (t u : FileTree) : Prop :=
  ∀ l, t.get? l = some .directory → u.get? l = some .directory

theorem isOuter_of_get?_ne (h : t.get? l ≠ some .directory) : isOuter l = false := by
  cases hl : isOuter l with
  | false => rfl
  | true => exact absurd (by simp [get?, hl]) h

theorem keepsDirectories_insert (e : Entry) (h : t.get? l ≠ some .directory) :
    t.KeepsDirectories (t.insert l e) := by
  intro m hm
  have hne : m ≠ l := by
    rintro rfl
    exact h hm
  rw [get?_insert_of_ne e hne, hm]

/-! ### Walking -/

theorem step_of_keepsDirectories (h : t.KeepsDirectories u) {name : Text}
    (hstep : t.step l name = .ok m) : u.step l name = .ok m := by
  -- a step that does not fail starts at a directory, and the directory is all that it looks at
  have hdirectory : t.get? l = some .directory := by
    unfold step at hstep
    split at hstep
    · exact absurd hstep (by simp)
    · exact absurd hstep (by simp)
    · next hl => exact hl
  rw [← hstep, step, step, h l hdirectory, hdirectory]

/-- A walk goes through directories only, so it leads to the same place in another tree. -/
theorem walk_of_keepsDirectories (h : t.KeepsDirectories u) (hwalk : t.walk l ns = .ok m) :
    u.walk l ns = .ok m := by
  induction ns generalizing l with
  | nil => exact hwalk
  | cons name ns ih =>
    rw [walk] at hwalk ⊢
    cases hstep : t.step l name with
    | error e => simp [hstep] at hwalk
    | ok l' =>
      rw [step_of_keepsDirectories h hstep]
      simp only [hstep] at hwalk
      exact ih hwalk

theorem walk_append (l : Location) (ns ms : List Text) :
    t.walk l (ns ++ ms) = t.walk l ns >>= fun m => t.walk m ms := by
  induction ns generalizing l with
  | nil => rfl
  | cons name ns ih =>
    rw [List.cons_append, walk, walk]
    cases t.step l name with
    | error e => rfl
    | ok l' => exact ih l'

theorem walk_singleton (l : Location) (name : Text) : t.walk l [name] = t.step l name := by
  rw [walk]
  cases t.step l name <;> rfl

theorem locate_eq_ok_iff :
    t.locate path = .ok l ↔ pathFault? path = none ∧ t.walk (origin path) (names path) = .ok l := by
  unfold locate
  cases pathFault? path <;> simp

theorem locate_of_keepsDirectories (h : t.KeepsDirectories u) (hl : t.locate path = .ok l) :
    u.locate path = .ok l := by
  rw [locate_eq_ok_iff] at hl ⊢
  exact ⟨hl.1, walk_of_keepsDirectories h hl.2⟩

/-! ### Making directories -/

/-- What making directories does for its first name: nothing is needed for the directory above, and
any other name has a directory from then on. -/
theorem createAll_cons {made : Bool} {name : Text}
    (h : t.createAll made l (name :: ns) = (t', none)) :
    (name = ['.', '.'] ∧ t.createAll made (above l) ns = (t', none)) ∨
      (name ≠ ['.', '.'] ∧ ¬ nameLimit < Text.byteCount name ∧ ∃ (t₁ : FileTree) (made₁ : Bool),
        t₁.get? (l ++ [name]) = some .directory ∧
          t₁.createAll made₁ (l ++ [name]) ns = (t', none)) := by
  rw [createAll] at h
  split at h
  · next hdots => exact Or.inl ⟨hdots, h⟩
  · next hdots =>
    split at h
    · exact absurd h (by simp)
    · next hlong =>
      refine Or.inr ⟨hdots, hlong, ?_⟩
      split at h
      · next hget => exact ⟨t, made, hget, h⟩
      · exact absurd h (by simp)
      · next hget =>
        have houter : isOuter (l ++ [name]) = false :=
          isOuter_of_get?_ne (t := t) (by simp [hget])
        exact ⟨t.insert (l ++ [name]) .directory, true, get?_insert_self _ houter, h⟩

/-- Directories that have been made are found by another run, which changes nothing. -/
theorem createAll_of_keepsDirectories {made made' : Bool}
    (hmade : t.createAll made l ns = (t', none)) (h : t'.KeepsDirectories u) :
    u.createAll made' l ns = (u, none) := by
  induction ns generalizing t made l with
  | nil => rfl
  | cons name ns ih =>
    rcases createAll_cons hmade with
      ⟨hdots, htail⟩ | ⟨hdots, hlong, t₁, made₁, hdirectory, htail⟩
    · rw [createAll, if_pos hdots]
      exact ih htail
    · -- the rest of the run keeps the directory of the first name
      have hkept : (t₁.createAll made₁ (l ++ [name]) ns).1.get? (l ++ [name]) =
          t₁.get? (l ++ [name]) := get?_createAll_of_isSome (by rw [hdirectory]; rfl)
      rw [htail, hdirectory] at hkept
      simp only [createAll, if_neg hdots, if_neg hlong, h _ hkept]
      exact ih htail

theorem createParents_of_keepsDirectories (hmade : t.createParents path = (t', none))
    (h : t'.KeepsDirectories u) : u.createParents path = (u, none) := by
  unfold createParents at hmade ⊢
  split at hmade
  · exact absurd hmade (by simp)
  · next hlong =>
    rw [if_neg hlong]
    exact createAll_of_keepsDirectories hmade h

/-! ### Writing -/

theorem withoutTrailingSlashes_of_getLast? (h : path.getLast? ≠ some '/') :
    withoutTrailingSlashes path = path := by
  have hdrop : path.reverse.dropWhile (· = '/') = path.reverse := by
    rw [← List.head?_reverse] at h
    cases hreverse : path.reverse with
    | nil => rfl
    | cons c r =>
      have hc : c ≠ '/' := by simpa [hreverse] using h
      exact List.dropWhile_cons_of_neg (by simpa using hc)
  rw [withoutTrailingSlashes, hdrop, List.reverse_reverse]

/-- The walk to a path is the walk to its directory and the step to its last name. -/
theorem walk_names (t : FileTree) (path : Text) :
    t.walk (origin path) (names path) =
      t.walk (origin path) (names path).dropLast >>= fun m =>
        t.step m ((names path).getLast?.getD []) := by
  have hne : names path ≠ [] := List.splitOn_ne_nil _ _
  conv => lhs; rw [← List.dropLast_concat_getLast hne, walk_append]
  simp only [walk_singleton, List.getLast?_eq_some_getLast hne, Option.getD_some]

/-- Writing to a path goes where the path leads, unless the path ends like that of a directory. -/
theorem write_eq_locate_bind (h : path.getLast? ≠ some '/') :
    t.write path content = t.locate path >>= fun l =>
      if t.get? l = some .directory then .error .isDirectory
      else .ok (t.insert l (.file (some content))) := by
  unfold write locate
  -- without a slash at the end the last name of the path is the name of the file
  cases pathFault? path with
  | some e => rfl
  | none =>
    simp only [withoutTrailingSlashes_of_getLast? h, if_neg h, walk_names]
    cases t.walk (origin path) (names path).dropLast with
    | error e => rfl
    | ok m =>
      cases hstep : t.step m ((names path).getLast?.getD []) <;> simp [bind, Except.bind, hstep]

theorem write_ne_ok_of_getLast? (h : path.getLast? = some '/') :
    t.write path content ≠ .ok t' := by
  unfold write
  cases pathFault? path with
  | some e => simp
  | none =>
    simp only [h, if_true]
    cases t.walk (origin path) (names (withoutTrailingSlashes path)).dropLast <;> simp

/-- Writing succeeds where a path leads, unless there is a directory, and puts a file there. -/
theorem write_eq_ok_iff :
    t.write path content = .ok t' ↔
      path.getLast? ≠ some '/' ∧ ∃ l, t.locate path = .ok l ∧ t.get? l ≠ some .directory ∧
        t' = t.insert l (.file (some content)) := by
  by_cases hslash : path.getLast? = some '/'
  · simp [hslash, write_ne_ok_of_getLast? hslash]
  · rw [write_eq_locate_bind hslash]
    cases hlocate : t.locate path with
    | error e => simp [bind, Except.bind]
    | ok l =>
      by_cases hdirectory : t.get? l = some .directory
      · simp [bind, Except.bind, hdirectory]
      · simp only [bind, Except.bind, hdirectory, hslash, if_false, Except.ok.injEq, ne_eq,
          not_false_eq_true, true_and, exists_eq_left']
        exact eq_comm

theorem keepsDirectories_of_write (h : t.write path content = .ok t') : t.KeepsDirectories t' := by
  obtain ⟨-, l, -, hdirectory, rfl⟩ := write_eq_ok_iff.mp h
  exact keepsDirectories_insert _ hdirectory

/-- What has been written is what the path leads to. -/
theorem get?_of_write (h : t.write path content = .ok t') :
    ∃ l, t'.locate path = .ok l ∧ t'.get? l = some (.file (some content)) := by
  have hkeeps := keepsDirectories_of_write h
  obtain ⟨-, l, hlocate, hdirectory, rfl⟩ := write_eq_ok_iff.mp h
  exact ⟨l, locate_of_keepsDirectories hkeeps hlocate,
    get?_insert_self _ (isOuter_of_get?_ne hdirectory)⟩

/-- What has been written is read. -/
theorem read_of_write (h : t.write path content = .ok t') : t'.read path = .ok content := by
  obtain ⟨l, hlocate, hget⟩ := get?_of_write h
  simp [read, hlocate, hget]

theorem isPresent_of_read (h : t.read path = .ok content) : t.isPresent path = true := by
  unfold read at h
  unfold isPresent
  cases hlocate : t.locate path with
  | error e => simp [hlocate] at h
  | ok l => cases hget : t.get? l <;> simp_all

theorem isPresent_of_write (h : t.write path content = .ok t') : t'.isPresent path = true := by
  obtain ⟨l, hlocate, hget⟩ := get?_of_write h
  simp [isPresent, hlocate, hget]

/-- What has been written can be replaced. -/
theorem exists_write_of_write (h : t.write path content = .ok t') (content' : Text) :
    ∃ u, t'.write path content' = .ok u := by
  obtain ⟨l, hlocate, hget⟩ := get?_of_write h
  have hslash := (write_eq_ok_iff.mp h).1
  exact ⟨_, write_eq_ok_iff.mpr ⟨hslash, l, hlocate, by simp [hget], rfl⟩⟩

/-- A file can be written at a path, whatever its content is: the directories on the way are there
or can be made, and nothing else is in the way. -/
structure IsWritable (t : FileTree) (path : Text) : Prop where
  createParents : (t.createParents path).2 = none
  write : ∀ content, ∃ u, (t.createParents path).1.write path content = .ok u

/-- After writing, the file can be written again. -/
theorem IsWritable.after_write (h : t.IsWritable path)
    (hwrite : (t.createParents path).1.write path content = .ok u) : u.IsWritable path := by
  have hmade : t.createParents path = ((t.createParents path).1, none) :=
    Prod.ext rfl h.createParents
  have hagain : u.createParents path = (u, none) :=
    createParents_of_keepsDirectories hmade (keepsDirectories_of_write hwrite)
  constructor
  · rw [hagain]
  · rw [hagain]
    exact exists_write_of_write hwrite

end LootFilter.FileTree
