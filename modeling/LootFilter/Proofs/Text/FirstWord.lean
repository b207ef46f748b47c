import LootFilter.Proofs.Text.Words

/-!
# The first word of a text

The words of a text can be found in two ways. One goes through all of it, skips blanks and collects
what stands between them. The other one looks for the first blank of the trimmed text, cuts the text
there and trims what is left behind the cut.

Here both ways are described by what they find. The words are the pieces between the blanks, without
the empty pieces that stand between two blanks in a row. And a cut finds a word and a rest if the
text is laid out in this way, with blanks in front, in between and behind, and in no other case.

## Main definitions

* `Text.OpensWith` — the texts that are laid out as a word and a rest

## Main results

* `Text.words_eq_filter_splitOnP` — the words are the pieces between the blanks
* `Text.firstWord?_eq_some_iff` — which word and which rest a text is cut into
* `Text.firstWord?_append_append` — blanks around a text play no part
-/

namespace LootFilter.Text

variable {t w r front behind : Text} {c : Char}

/-- The words of a text are the pieces between its blanks, less the empty ones. -/
theorem words_eq_filter_splitOnP (t : Text) : words t = (t.splitOnP isBlank).filter (· ≠ []) := by
  induction t with
  | nil => rfl
  | cons c t ih =>
    rw [List.splitOnP_cons_eq_if_modifyHead]
    by_cases hc : isBlank c = true
    · rw [words_cons_of_isBlank hc, if_pos hc, ih]
      rfl
    · -- the character joins the first of the later pieces, which is a word unless it is empty
      rw [if_neg hc, words.eq_def]
      cases t with
      | nil => simp [hc]
      | cons d t =>
        rw [List.splitOnP_cons_eq_if_modifyHead] at ih ⊢
        by_cases hd : isBlank d = true
        · simp [hc, hd, ih]
        · obtain ⟨piece, pieces, hpieces⟩ :=
            List.exists_cons_of_ne_nil (List.splitOnP_ne_nil isBlank t)
          simp [hc, hd, ih, hpieces]

/-! ### Layouts -/

/-- A text that opens with a word and goes on with a rest: the word holds no blank, the rest has no
blanks around it, and there are only blanks in front of the word, between the two and behind the
rest. -/
structure OpensWith (t w r : Text) : Prop where
  ne_nil : w ≠ []
  isBlank_of_mem : ∀ c ∈ w, isBlank c = false
  trim_rest : trim r = r
  exists_eq : ∃ front gap behind : Text, (∀ c ∈ front, isBlank c = true) ∧
    (∀ c ∈ gap, isBlank c = true) ∧ (∀ c ∈ behind, isBlank c = true) ∧ (r ≠ [] → gap ≠ []) ∧
    t = front ++ (w ++ (gap ++ r)) ++ behind

/-- A text is its trimmed form with blanks around it. -/
theorem exists_eq_append_trim (t : Text) :
    ∃ front behind : Text, (∀ c ∈ front, isBlank c = true) ∧ (∀ c ∈ behind, isBlank c = true) ∧
      t = front ++ trim t ++ behind := by
  obtain ⟨behind, hbehind, hblank⟩ := exists_eq_trimEnd_append (trimStart t)
  refine ⟨t.takeWhile isBlank, behind, List.all_eq_true.1 List.all_takeWhile, hblank, ?_⟩
  rw [List.append_assoc, trim, ← hbehind, trimStart, List.takeWhile_append_dropWhile]

theorem trim_append_append (hfront : ∀ c ∈ front, isBlank c = true)
    (hbehind : ∀ c ∈ behind, isBlank c = true) (t : Text) :
    trim (front ++ t ++ behind) = trim t := by
  rw [trim_append_of_isBlank hbehind, trim_append_of_isBlank_left hfront]

/-- Blanks around a text play no part when its first word is read. -/
theorem firstWord?_append_append (hfront : ∀ c ∈ front, isBlank c = true)
    (hbehind : ∀ c ∈ behind, isBlank c = true) (t : Text) :
    firstWord? (front ++ t ++ behind) = firstWord? t := by
  rw [← firstWord?_trim, trim_append_append hfront hbehind, firstWord?_trim]

/-- What is left of a text behind its first run without blanks begins with a blank. -/
theorem isBlank_of_mem_head?_dropWhile (h : c ∈ (t.dropWhile (!isBlank ·)).head?) :
    isBlank c = true := by
  have hstop := List.head?_dropWhile_not (fun c => !isBlank c) t
  rw [Option.mem_def.1 h] at hstop
  simpa using hstop

/-- What is read as the first word and the rest is laid out in the text. -/
theorem OpensWith.of_firstWord? (h : firstWord? t = some (w, r)) : OpensWith t w r := by
  have hword : w ∈ words t := words_of_firstWord? h ▸ List.mem_cons_self
  have hrest : trim r = r := trim_of_firstWord? h
  obtain ⟨front, behind, hfront, hbehind, ht⟩ := exists_eq_append_trim t
  unfold firstWord? at h
  split at h
  · simp at h
  · rename_i c s hs
    obtain ⟨rfl, rfl⟩ := Prod.mk.inj (Option.some.inj h)
    set cut := (c :: s).dropWhile (!isBlank ·) with hcut
    refine ⟨ne_nil_of_mem_words hword, fun _ => isBlank_of_mem_words hword, hrest, front,
      cut.takeWhile isBlank, behind, hfront, List.all_eq_true.1 List.all_takeWhile, hbehind, ?_, ?_⟩
    · -- without a gap the rest would begin with the blank at which the text is cut
      intro hne hgap
      have hstart : trimStart cut = cut := by
        simpa [hgap, trimStart] using List.takeWhile_append_dropWhile (p := isBlank) (l := cut)
      obtain ⟨d, cut', hd⟩ := List.exists_cons_of_ne_nil (hstart ▸ hne)
      have hmem : d ∈ cut.head? := by rw [hd]; rfl
      have hblank : isBlank d = true := isBlank_of_mem_head?_dropWhile hmem
      have hnot : isBlank d = false := isBlank_of_mem_head? hrest (hstart.symm ▸ hmem)
      simp [hblank] at hnot
    · rw [trimStart, List.takeWhile_append_dropWhile, hcut, List.takeWhile_append_dropWhile, ← hs]
      exact ht

/-- What is laid out as a word and a rest is read as the two. -/
theorem OpensWith.firstWord?_eq (h : OpensWith t w r) : firstWord? t = some (w, r) := by
  obtain ⟨front, gap, behind, hfront, hgap, hbehind, hsep, rfl⟩ := h.exists_eq
  have hhead : ∀ c ∈ (gap ++ r).head?, isBlank c = true := by
    cases gap with
    | nil =>
      obtain rfl : r = [] := by simpa using hsep
      simp
    | cons d gap => simpa using hgap d List.mem_cons_self
  rw [firstWord?_append_append hfront hbehind,
    firstWord?_append_blank h.isBlank_of_mem h.ne_nil hhead, trim_append_of_isBlank_left hgap,
    h.trim_rest]

/-- A text is cut into a word and a rest exactly if it is laid out as the two. -/
theorem firstWord?_eq_some_iff : firstWord? t = some (w, r) ↔ OpensWith t w r :=
  ⟨OpensWith.of_firstWord?, OpensWith.firstWord?_eq⟩

example : OpensWith "\u3000SetTextColor \u0085 255  0 0\r" "SetTextColor" "255  0 0" :=
  firstWord?_eq_some_iff.1 (by decide)

end LootFilter.Text
