import LootFilter.Text.Words
import Mathlib.Data.List.TakeWhile

/-!
# Words of trimmed texts

A line is read in two ways: as all its words, and as its first word with the trimmed rest of the
line. Blanks around a text play no part in either, and the two readings agree: the rest of the line
holds the remaining words.

## Main results

* `trim_trim`, `trim_eq_nil_iff`, `mem_trim_of_not_isBlank` — what trimming keeps
* `trim_append_of_isBlank`, `trim_append_of_isBlank_left` — what trimming takes away
* `trim_cons_append` — what has nothing to trim
* `words_trim` — blanks around a text are between no words
* `flatten_words`, `mem_iff_exists_mem_words` — the words hold what is not blank
* `firstWord?_eq_none_iff`, `words_of_firstWord?`, `exists_firstWord?` — the first word and the rest
  are the words
* `trim_of_firstWord?` — the rest is trimmed
* `firstWord?_append_blank`, `firstWord?_append_space` — a word and a text behind it are read apart
* `prefix_of_words` — a text that begins with no blank begins with its first word
-/

namespace LootFilter.Text

variable {s t w r : Text} {c : Char}

/-! ### Trimming -/

theorem trimStart_eq_nil_iff : trimStart t = [] ↔ ∀ c ∈ t, isBlank c = true :=
  List.dropWhile_eq_nil_iff

/-- What is left of a text begins with no blank. -/
theorem isBlank_of_mem_head?_trimStart (h : c ∈ (trimStart t).head?) : isBlank c = false := by
  induction t with
  | nil => simp at h
  | cons d t ih =>
    rw [trimStart_cons] at h
    split at h
    · exact ih h
    · simp_all

theorem trimStart_trimStart (t : Text) : trimStart (trimStart t) = trimStart t :=
  trimStart_eq_self_iff.2 fun _ h => isBlank_of_mem_head?_trimStart h

theorem trimEnd_cons (c : Char) (t : Text) :
    trimEnd (c :: t) = if trimEnd t = [] ∧ isBlank c = true then [] else c :: trimEnd t := by
  rw [trimEnd]
  cases h : trimEnd t with
  | nil => by_cases hc : isBlank c = true <;> simp [hc]
  | cons d rest => simp

/-- A character that is not blank stays, and so does what stands in front of it. -/
theorem trimEnd_cons_of_not_isBlank (h : isBlank c = false) (t : Text) :
    trimEnd (c :: t) = c :: trimEnd t := by
  simp [trimEnd_cons, h]

/-- Trimming the end only takes blanks away. -/
theorem exists_eq_trimEnd_append (t : Text) :
    ∃ s, t = trimEnd t ++ s ∧ ∀ c ∈ s, isBlank c = true := by
  induction t with
  | nil => exact ⟨[], by simp⟩
  | cons d t ih =>
    obtain ⟨s, hs, hblank⟩ := ih
    rw [trimEnd_cons]
    by_cases h : trimEnd t = [] ∧ isBlank d = true
    · rw [if_pos h]
      refine ⟨d :: t, rfl, ?_⟩
      rw [h.1, List.nil_append] at hs
      subst hs
      simpa [h.2] using hblank
    · rw [if_neg h]
      exact ⟨s, by rw [List.cons_append, ← hs], hblank⟩

theorem trimEnd_trimEnd (t : Text) : trimEnd (trimEnd t) = trimEnd t := by
  induction t with
  | nil => rfl
  | cons d t ih =>
    rw [trimEnd_cons]
    split
    · rfl
    · rename_i h
      rw [trimEnd_cons, ih, if_neg h]

/-- A part at the end of a trimmed text is trimmed there, too. -/
theorem trimEnd_of_append (h : trimEnd (s ++ t) = s ++ t) : trimEnd t = t := by
  induction s with
  | nil => exact h
  | cons d s ih =>
    rw [List.cons_append, trimEnd_cons] at h
    split at h
    · simp at h
    · exact ih (List.cons.inj h).2

theorem isBlank_of_mem_head?_trim (h : c ∈ (trim t).head?) : isBlank c = false := by
  unfold trim at h
  cases hs : trimStart t with
  | nil => simp [hs] at h
  | cons d rest =>
    have hd : isBlank d = false := isBlank_of_mem_head?_trimStart (t := t) (by simp [hs])
    rw [hs, trimEnd_cons_of_not_isBlank hd] at h
    simp_all

theorem isBlank_of_mem_head? (h : trim t = t) (hc : c ∈ t.head?) : isBlank c = false := by
  rw [← h] at hc
  exact isBlank_of_mem_head?_trim hc

@[simp] theorem trim_trim (t : Text) : trim (trim t) = trim t := by
  have hstart : trimStart (trim t) = trim t :=
    trimStart_eq_self_iff.2 fun c hc => isBlank_of_mem_head?_trim hc
  rw [trim, hstart]
  exact trimEnd_trimEnd _

/-- Every character that is not blank survives trimming. -/
theorem mem_trim_of_not_isBlank (hc : c ∈ t) (h : isBlank c = false) : c ∈ trim t := by
  have hstart : c ∈ trimStart t := by
    rw [← List.takeWhile_append_dropWhile (p := isBlank) (l := t), List.mem_append] at hc
    rcases hc with hc | hc
    · have := List.all_eq_true.1 List.all_takeWhile c hc
      simp [h] at this
    · exact hc
  obtain ⟨s, hs, hblank⟩ := exists_eq_trimEnd_append (trimStart t)
  rw [hs, List.mem_append] at hstart
  rcases hstart with hstart | hstart
  · exact hstart
  · simp [hblank c hstart] at h

/-- Trimming adds no character. -/
theorem mem_of_mem_trim (hc : c ∈ trim t) : c ∈ t := by
  obtain ⟨s, hs, -⟩ := exists_eq_trimEnd_append (trimStart t)
  have hstart : c ∈ trimStart t := by
    rw [hs]
    exact List.mem_append_left s hc
  exact (List.dropWhile_suffix isBlank).subset hstart

theorem trim_eq_nil_iff : trim t = [] ↔ ∀ c ∈ t, isBlank c = true := by
  constructor
  · intro h c hc
    by_contra hne
    have := mem_trim_of_not_isBlank hc (by simpa using hne)
    simp [h] at this
  · intro h
    rw [trim, trimStart_eq_nil_iff.2 h, trimEnd_nil]

theorem isBlankText_iff : t.isBlankText = true ↔ trim t = [] :=
  List.all_eq_true.trans trim_eq_nil_iff.symm

/-- A text without blanks has nothing to trim. -/
theorem trim_of_forall_not_isBlank (h : ∀ c ∈ t, isBlank c = false) : trim t = t := by
  have hstart : trimStart t = t :=
    trimStart_eq_self_iff.2 fun c hc => h c (List.mem_of_mem_head? hc)
  obtain ⟨s, hs, hblank⟩ := exists_eq_trimEnd_append t
  cases s with
  | nil => rw [trim, hstart, hs.trans (List.append_nil _), trimEnd_trimEnd]
  | cons c s =>
    have hmem : c ∈ t := by
      rw [hs]
      simp
    have := h c hmem
    simp [hblank c List.mem_cons_self] at this

theorem trimEnd_eq_nil_of_isBlank (h : ∀ c ∈ s, isBlank c = true) : trimEnd s = [] := by
  induction s with
  | nil => rfl
  | cons c s ih =>
    have hs : trimEnd s = [] := ih fun d hd => h d (List.mem_cons_of_mem c hd)
    rw [trimEnd_cons, if_pos ⟨hs, h c List.mem_cons_self⟩]

theorem trimEnd_append_of_isBlank (h : ∀ c ∈ s, isBlank c = true) (t : Text) :
    trimEnd (t ++ s) = trimEnd t := by
  induction t with
  | nil => exact trimEnd_eq_nil_of_isBlank h
  | cons c t ih => rw [List.cons_append, trimEnd_cons, trimEnd_cons, ih]

/-- Blanks behind a text are trimmed away. -/
theorem trim_append_of_isBlank (h : ∀ c ∈ s, isBlank c = true) (t : Text) :
    trim (t ++ s) = trim t := by
  have hs : trimStart s = [] := trimStart_eq_nil_iff.2 h
  rw [trim, trimStart, List.dropWhile_append]
  split
  next ht =>
    -- a blank text leaves no place to which blanks could be added
    have ht : trimStart t = [] := List.isEmpty_iff.1 ht
    rw [trim, ht]
    exact congrArg trimEnd hs
  next => exact trimEnd_append_of_isBlank h _

/-- Blanks in front of a text are trimmed away. -/
theorem trim_append_of_isBlank_left (h : ∀ c ∈ s, isBlank c = true) (t : Text) :
    trim (s ++ t) = trim t := by
  rw [trim, trim, trimStart, List.dropWhile_append_of_pos h, trimStart]

theorem trimEnd_append_of_ne_nil (h : trimEnd t ≠ []) (s : Text) :
    trimEnd (s ++ t) = s ++ trimEnd t := by
  induction s with
  | nil => rfl
  | cons c s ih =>
    have hne : s ++ trimEnd t ≠ [] := fun e => h (List.append_eq_nil_iff.1 e).2
    rw [List.cons_append, trimEnd_cons, ih, if_neg fun hboth => hne hboth.1, List.cons_append]

theorem isBlank_of_trimEnd_eq_nil (h : trimEnd t = []) : ∀ c ∈ t, isBlank c = true := by
  obtain ⟨s, hs, hblank⟩ := exists_eq_trimEnd_append t
  rw [h, List.nil_append] at hs
  exact hs ▸ hblank

theorem trim_cons_of_isBlank (h : isBlank c = true) (t : Text) : trim (c :: t) = trim t := by
  rw [trim, trimStart_cons, if_pos h, trim]

/-- The front and the end of a text can be trimmed in either order. -/
theorem trimStart_trimEnd (t : Text) : trimStart (trimEnd t) = trim t := by
  induction t with
  | nil => rfl
  | cons c t ih =>
    by_cases hc : isBlank c = true
    · -- a blank in front survives the end if something behind it does
      rw [trimEnd_cons, trim_cons_of_isBlank hc]
      split
      next h => rw [← ih, h.1]
      next => rw [trimStart_cons, if_pos hc, ih]
    · have hc : isBlank c = false := by simpa using hc
      rw [trim, trimEnd_cons_of_not_isBlank hc, trimStart_cons, trimStart_cons, hc]
      exact (trimEnd_cons_of_not_isBlank hc t).symm

theorem trimEnd_of_trim (h : trim t = t) : trimEnd t = t := by
  rw [← h, trim, trimEnd_trimEnd]

/-- What begins with no blank and ends with a trimmed text is trimmed. -/
theorem trim_cons_append (hc : isBlank c = false) (s : Text) (ht : trim t = t) (hne : t ≠ []) :
    trim (c :: s ++ t) = c :: s ++ t := by
  have hstart : trimStart (c :: s ++ t) = c :: s ++ t := by
    rw [trimStart_eq_self_iff]
    rintro d ⟨⟩
    exact hc
  have hend := trimEnd_of_trim ht
  rw [trim, hstart, trimEnd_append_of_ne_nil (by rwa [hend]), hend]

/-- Behind a text without blanks only the end is trimmed. -/
theorem trim_append_of_forall_not_isBlank (hw : ∀ c ∈ w, isBlank c = false) (hwne : w ≠ [])
    (t : Text) : trim (w ++ t) = w ++ trimEnd t := by
  have htrim := trim_of_forall_not_isBlank hw
  obtain ⟨c, w', rfl⟩ := List.exists_cons_of_ne_nil hwne
  have hstart : trimStart (c :: w' ++ t) = c :: w' ++ t := by
    rw [trimStart_eq_self_iff]
    rintro d ⟨⟩
    exact hw c List.mem_cons_self
  rw [trim, hstart]
  by_cases ht : trimEnd t = []
  · rw [trimEnd_append_of_isBlank (isBlank_of_trimEnd_eq_nil ht), trimEnd_of_trim htrim, ht,
      List.append_nil]
  · exact trimEnd_append_of_ne_nil ht _

/-! ### Words -/

/-- Blanks in front of a text are part of no word. -/
@[simp] theorem words_trimStart (t : Text) : words (trimStart t) = words t := by
  induction t with
  | nil => rfl
  | cons c t ih =>
    rw [trimStart_cons]
    split
    next h => rw [ih, words_cons_of_isBlank h]
    next => rfl

/-- Blanks behind a text are part of no word. -/
theorem words_append_of_isBlank (h : ∀ c ∈ s, isBlank c = true) (t : Text) :
    words (t ++ s) = words t := by
  induction t with
  | nil => exact words_eq_nil_iff.2 h
  | cons c t ih =>
    rw [List.cons_append]
    by_cases hc : isBlank c = true
    · rw [words_cons_of_isBlank hc, words_cons_of_isBlank hc, ih]
    · -- whether the word goes on is seen at the next character
      rw [words.eq_def (c :: (t ++ s)), words.eq_def (c :: t)]
      simp only [if_neg hc]
      cases t with
      | nil =>
        cases s with
        | nil => rfl
        | cons d s => simp [h d (by simp), words_eq_nil_iff.2 h]
      | cons d t =>
        rw [List.cons_append] at ih
        simp only [List.cons_append, ih]

@[simp] theorem words_trim (t : Text) : words (trim t) = words t := by
  obtain ⟨s, hs, hblank⟩ := exists_eq_trimEnd_append (trimStart t)
  rw [trim, ← words_append_of_isBlank hblank (trimEnd (trimStart t)), ← hs, words_trimStart]

/-- A space ends a word. -/
theorem words_append_space (hw : ∀ c ∈ w, isBlank c = false) (hwne : w ≠ []) (t : Text) :
    words (w ++ ' ' :: t) = w :: words t := by
  rw [words_append_blank hwne hw (by simp [isBlank_space]), words_cons_of_isBlank isBlank_space]

theorem words_of_forall_not_isBlank (hw : ∀ c ∈ w, isBlank c = false) (hwne : w ≠ []) :
    words w = [w] := by
  simpa using words_append_blank (t := []) hwne hw (by simp)

/-- The words of a text hold its characters that are not blank. -/
theorem flatten_words (t : Text) : (words t).flatten = t.filter (!isBlank ·) := by
  induction t with
  | nil => rfl
  | cons c t ih =>
    rw [words.eq_def]
    by_cases hc : isBlank c = true
    · simp [hc, ih]
    · -- a character that is not blank begins a word, or it joins the word that begins behind it
      cases t with
      | nil => simp [hc]
      | cons d t =>
        by_cases hd : isBlank d = true
        · simp [hc, hd, ih]
        · cases hwords : words (d :: t) <;> rw [hwords] at ih <;> simp [hc, hd, hwords, ← ih]

/-- A character that is not blank stands in a text exactly if it stands in one of the words. -/
theorem mem_iff_exists_mem_words (h : isBlank c = false) : c ∈ t ↔ ∃ w ∈ words t, c ∈ w := by
  rw [← List.mem_flatten, flatten_words, List.mem_filter]
  simp [h]

/-! ### The first word and the rest -/

/-- Reading a first word fails on blank texts, and there alone. -/
theorem firstWord?_eq_none_iff : firstWord? t = none ↔ words t = [] := by
  unfold firstWord?
  rw [words_eq_nil_iff, ← trim_eq_nil_iff]
  split <;> simp_all

@[simp] theorem firstWord?_trim (t : Text) : firstWord? (trim t) = firstWord? t := by
  rw [firstWord?, firstWord?, trim_trim]

/-- The first word and the rest of a text hold the words of the text. -/
theorem words_of_firstWord? (h : firstWord? t = some (w, r)) : words t = w :: words r := by
  unfold firstWord? at h
  split at h
  · simp at h
  · rename_i c rest e
    obtain ⟨rfl, rfl⟩ := Prod.mk.inj (Option.some.inj h)
    have hc : isBlank c = false := isBlank_of_mem_head?_trim (t := t) (by simp [e])
    rw [← words_trim, e, words_cons_of_not_isBlank hc, words_trimStart]
    simp [hc]

/-- The rest of a text behind its first word has no blanks around it. -/
theorem trim_of_firstWord? (h : firstWord? t = some (w, r)) : trim r = r := by
  unfold firstWord? at h
  split at h
  · simp at h
  · rename_i c rest e
    obtain ⟨rfl, rfl⟩ := Prod.mk.inj (Option.some.inj h)
    -- the rest stands at the end of a trimmed text
    obtain ⟨s, hs⟩ : trimStart ((c :: rest).dropWhile (!isBlank ·)) <:+ c :: rest :=
      (List.dropWhile_suffix _).trans (List.dropWhile_suffix _)
    have hend : trimEnd (c :: rest) = c :: rest := by
      rw [← e, trim, trimEnd_trimEnd]
    rw [← hs] at hend
    rw [trim, trimStart_trimStart]
    exact trimEnd_of_append hend

/-- The rest of a text behind its first word is a part of the text. -/
theorem mem_of_firstWord? (h : firstWord? t = some (w, r)) (hc : c ∈ r) : c ∈ t := by
  unfold firstWord? at h
  split at h
  · simp at h
  · rename_i d rest e
    obtain ⟨rfl, rfl⟩ := Prod.mk.inj (Option.some.inj h)
    have hsuffix : trimStart ((d :: rest).dropWhile (!isBlank ·)) <:+ d :: rest :=
      (List.dropWhile_suffix _).trans (List.dropWhile_suffix _)
    exact mem_of_mem_trim (e ▸ hsuffix.subset hc)

/-- Behind the last word nothing is left. -/
theorem eq_nil_of_firstWord? (h : firstWord? t = some (w, r)) (hr : words r = []) : r = [] := by
  rw [← trim_of_firstWord? h]
  exact trim_eq_nil_iff.2 (words_eq_nil_iff.1 hr)

/-- A text that has words is read as the first of them and the rest. -/
theorem exists_firstWord? {ws : List Text} (h : words t = w :: ws) :
    ∃ r, firstWord? t = some (w, r) ∧ words r = ws := by
  cases e : firstWord? t with
  | none => simp [firstWord?_eq_none_iff.1 e] at h
  | some p =>
    obtain ⟨v, r⟩ := p
    rw [words_of_firstWord? e] at h
    obtain ⟨rfl, rfl⟩ := List.cons.inj h
    exact ⟨r, rfl, rfl⟩

/-- A text without blanks, and what begins with a blank behind it, are read apart. -/
theorem firstWord?_append_blank (hw : ∀ c ∈ w, isBlank c = false) (hwne : w ≠ [])
    (ht : ∀ c ∈ t.head?, isBlank c = true) : firstWord? (w ++ t) = some (w, trim t) := by
  -- what is left behind the word when the end is trimmed still begins with a blank
  have hend : ∀ c ∈ (trimEnd t).head?, isBlank c = true := by
    intro c hc
    obtain ⟨s, hs, -⟩ := exists_eq_trimEnd_append t
    apply ht
    rw [hs]
    exact List.head?_append.trans (by rw [Option.mem_def.1 hc]; rfl)
  have htake := takeWhile_append_blank hw hend
  have hdrop := dropWhile_append_blank hw hend
  unfold firstWord?
  rw [trim_append_of_forall_not_isBlank hw hwne]
  obtain ⟨c, w', rfl⟩ := List.exists_cons_of_ne_nil hwne
  dsimp only [List.cons_append] at htake hdrop ⊢
  rw [htake, hdrop, trimStart_trimEnd]

/-- A word, a space and a text are read as the word and the text without the blanks around it. -/
theorem firstWord?_append_space (hw : ∀ c ∈ w, isBlank c = false) (hwne : w ≠ []) (t : Text) :
    firstWord? (w ++ ' ' :: t) = some (w, trim t) := by
  rw [firstWord?_append_blank hw hwne (by simp [isBlank_space]), trim_cons_of_isBlank isBlank_space]

/-- A text that begins with no blank begins with its first word. -/
theorem prefix_of_words {ws : List Text} (ht : ∀ c ∈ t.head?, isBlank c = false)
    (h : words t = w :: ws) : w <+: t := by
  cases t with
  | nil => exact absurd h (by simp)
  | cons c t =>
    rw [words_cons_of_not_isBlank (ht c rfl)] at h
    obtain ⟨rfl, -⟩ := List.cons.inj h
    exact (List.prefix_cons_inj c).2 (List.takeWhile_prefix _)

end LootFilter.Text
