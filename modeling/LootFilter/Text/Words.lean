import LootFilter.Text.Blank

/-!
# Words

The words of a text are its longest runs of characters that are not blank.

## Main definitions

* `Text.words` — the words of a text, in order
* `Text.firstWord?` — the first word and the trimmed rest, if there is a word

## Main results

* `Text.words_cons_of_isBlank`, `Text.words_append_blank` — how words arise
* `Text.takeWhile_append_blank`, `Text.dropWhile_append_blank` — where a word ends
* `Text.words_eq_nil_iff` — a text without words is blank
* `Text.isBlank_of_mem_words` — words hold no blank character
-/

namespace LootFilter.Text

/-- The words of a text. -/
def words : Text → List Text
  | [] => []
  | c :: rest =>
    if isBlank c then words rest
    else
      match rest with
      | [] => [[c]]
      | d :: _ =>
        if isBlank d then [c] :: words rest
        else
          match words rest with
          | [] => [[c]]
          | w :: ws => (c :: w) :: ws

/-- The first word of a text and what follows it, trimmed; nothing for a blank text. -/
def firstWord? (t : Text) : Option (Text × Text) :=
  match trim t with
  | [] => none
  | c :: rest =>
    some ((c :: rest).takeWhile (!isBlank ·), trimStart ((c :: rest).dropWhile (!isBlank ·)))

@[simp] theorem words_nil : words [] = [] := rfl

theorem words_cons_of_isBlank {c : Char} (h : isBlank c = true) (t : Text) :
    words (c :: t) = words t := by
  rw [words.eq_def]
  simp [h]

/-- A character that is not blank opens a word. -/
theorem words_cons_of_not_isBlank {c : Char} (h : isBlank c = false) (t : Text) :
    words (c :: t) = (c :: t.takeWhile (!isBlank ·)) :: words (t.dropWhile (!isBlank ·)) := by
  induction t generalizing c with
  | nil => simp [words, h]
  | cons d t ih =>
    rw [words.eq_def]
    by_cases hd : isBlank d
    · simp [h, hd]
    · have hd' : isBlank d = false := by simpa using hd
      simp [h, hd', ih hd']

section Runs

variable {w t : Text}

theorem takeWhile_append_blank (hw : ∀ c ∈ w, isBlank c = false)
    (ht : ∀ c ∈ t.head?, isBlank c = true) : (w ++ t).takeWhile (!isBlank ·) = w := by
  rw [List.takeWhile_append_of_pos (by simpa using hw)]
  cases t with
  | nil => simp
  | cons d t => simp [ht d (by simp)]

theorem dropWhile_append_blank (hw : ∀ c ∈ w, isBlank c = false)
    (ht : ∀ c ∈ t.head?, isBlank c = true) : (w ++ t).dropWhile (!isBlank ·) = t := by
  rw [List.dropWhile_append_of_pos (by simpa using hw)]
  cases t with
  | nil => simp
  | cons d t => simp [ht d (by simp)]

/-- A run of characters that are not blank, in front of a blank or of nothing, is a word. -/
theorem words_append_blank (hne : w ≠ []) (hw : ∀ c ∈ w, isBlank c = false)
    (ht : ∀ c ∈ t.head?, isBlank c = true) : words (w ++ t) = w :: words t := by
  obtain ⟨c, w, rfl⟩ := List.exists_cons_of_ne_nil hne
  have hc : isBlank c = false := hw c List.mem_cons_self
  have hrest : ∀ d ∈ w, isBlank d = false := fun d hd => hw d (List.mem_cons_of_mem c hd)
  rw [List.cons_append, words_cons_of_not_isBlank hc, takeWhile_append_blank hrest ht,
    dropWhile_append_blank hrest ht]

end Runs

theorem words_eq_nil_iff {t : Text} : words t = [] ↔ ∀ c ∈ t, isBlank c = true := by
  induction t with
  | nil => simp
  | cons c t ih =>
    by_cases h : isBlank c
    · simp [words_cons_of_isBlank h, ih, h]
    · have h' : isBlank c = false := by simpa using h
      simp [words_cons_of_not_isBlank h', h']

/-- The texts without words are the blank ones. -/
theorem words_eq_nil_iff_isBlankText {t : Text} : words t = [] ↔ t.isBlankText = true :=
  words_eq_nil_iff.trans List.all_eq_true.symm

/-- Words are not empty. -/
theorem ne_nil_of_mem_words {t w : Text} (h : w ∈ words t) : w ≠ [] := by
  induction hn : t.length using Nat.strongRecOn generalizing t with
  | ind n ih =>
    cases t with
    | nil => simp at h
    | cons c t =>
      by_cases hc : isBlank c
      · rw [words_cons_of_isBlank hc] at h
        exact ih t.length (by simp at hn; omega) h rfl
      · rw [words_cons_of_not_isBlank (by simpa using hc)] at h
        rcases List.mem_cons.1 h with rfl | h
        · simp
        · have := (List.dropWhile_suffix (!isBlank ·) (l := t)).length_le
          exact ih _ (by simp at hn; omega) h rfl

/-- No word holds a blank character. -/
theorem isBlank_of_mem_words {t w : Text} (h : w ∈ words t) {c : Char} (hc : c ∈ w) :
    isBlank c = false := by
  induction hn : t.length using Nat.strongRecOn generalizing t with
  | ind n ih =>
    cases t with
    | nil => simp at h
    | cons d t =>
      by_cases hd : isBlank d
      · rw [words_cons_of_isBlank hd] at h
        exact ih t.length (by simp at hn; omega) h rfl
      · rw [words_cons_of_not_isBlank (by simpa using hd)] at h
        rcases List.mem_cons.1 h with rfl | h
        · rcases List.mem_cons.1 hc with rfl | hc
          · simpa using hd
          · simpa using List.all_eq_true.1 List.all_takeWhile c hc
        · have := (List.dropWhile_suffix (!isBlank ·) (l := t)).length_le
          exact ih _ (by simp at hn; omega) h rfl

end LootFilter.Text
