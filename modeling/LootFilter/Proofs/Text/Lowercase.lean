import LootFilter.Text.Lowercase

/-!
# Lower case and the letters A to Z

Two readings of letter case meet in a filter. One folds the letters A to Z and takes every other
character as it is; the other lower-cases by the rules of Unicode. Folding first makes no difference
to lower-casing, since a letter and its small letter have the same form and are the same kind of
neighbour to a capital sigma. On ASCII texts the two readings agree. Beyond ASCII they could differ
only where a character has a lower-case form that is ASCII. The table has one such character, the
Kelvin sign, which becomes the letter k. The dotted capital I also leads to an ASCII letter, but its
form keeps a dot behind the letter, and the dot is not ASCII.

## Main definitions

* `Text.IsAscii` — a text of ASCII characters
* `Text.kelvinSign` — the character that becomes an ASCII letter

## Main results

* `Text.isAscii_of_isAscii_lowercase` — texts with an ASCII lower-case form
* `Text.sameIgnoringAsciiCase_iff` — how the two readings differ on the name of something
* `Text.lowercase_eq_of_sameIgnoringAsciiCase` — texts that are equal in the first reading are
  equal in the second
-/

namespace LootFilter

/-- A row of the table whose letters are ASCII, or whose forms are characters beyond ASCII. -/
def staysBeyondAscii : Nat × Nat × Nat × Nat → Bool
  | (first, last, _, lower) =>
    last < 0x80 ||
      0x80 ≤ lower && (lower + (last - first) < 0xD800 ||
        0xE000 ≤ lower && lower + (last - first) < 0x110000)

/-- The ranges that begin below a bound. -/
def rangesBelow (bound : Nat) (ranges : List (Nat × Nat)) : List (Nat × Nat) :=
  ranges.filter fun r => r.1 < bound

/-- A number below the bound can be looked up among the ranges that begin below the bound. -/
theorem inRanges_rangesBelow {ranges : List (Nat × Nat)} {n bound : Nat} (h : n < bound) :
    inRanges (rangesBelow bound ranges) n = inRanges ranges n := by
  have hbelow : ∀ r : Nat × Nat, decide (r.1 ≤ n) = (decide (r.1 < bound) && decide (r.1 ≤ n)) := by
    intro r
    rw [← Bool.decide_and]
    exact decide_eq_decide.mpr (by omega)
  rw [inRanges, inRanges, rangesBelow, List.any_filter]
  simp only [← Bool.and_assoc, ← hbelow]

namespace Text

/-- The sign for the unit of temperature, a capital letter that looks like a K. -/
def kelvinSign : Char := '\u212a'

/-- A text of ASCII characters. -/
def IsAscii (t : Text) : Prop := ∀ c ∈ t, c.toNat < 0x80

instance (t : Text) : Decidable t.IsAscii :=
  List.decidableBAll _ _

variable {s t : Text} {c : Char}

/-! ### Characters -/

set_option maxRecDepth 2000 in
/-- The Kelvin sign has a row of its own; no other row leads from beyond ASCII into ASCII. -/
theorem staysBeyondAscii_of_mem :
    ∀ row ∈ lowercaseRows, row = (0x212A, 0x212A, 1, 0x6B) ∨ staysBeyondAscii row = true := by
  decide

theorem toNat_ofNat_of_isValidChar {n : Nat} (h : n.isValidChar) : (Char.ofNat n).toNat = n := by
  rw [Char.ofNat, dif_pos h]
  rfl

/-- The form that a row gives to a letter beyond ASCII is beyond ASCII. -/
theorem le_toNat_of_row {first last step lower : Nat}
    (hrow : staysBeyondAscii (first, last, step, lower) = true)
    (hcovers : coversLetter c.toNat (first, last, step, lower) = true) (hc : 0x80 ≤ c.toNat) :
    0x80 ≤ (Char.ofNat (lower + (c.toNat - first))).toNat := by
  simp only [coversLetter, Bool.and_eq_true, decide_eq_true_eq] at hcovers
  simp only [staysBeyondAscii, Bool.or_eq_true, Bool.and_eq_true, decide_eq_true_eq] at hrow
  have hvalid : (lower + (c.toNat - first)).isValidChar := by
    simp only [Nat.isValidChar]
    omega
  rw [toNat_ofNat_of_isValidChar hvalid]
  omega

/-- The form of a character beyond ASCII holds one, too, unless the character is the Kelvin sign. -/
theorem exists_mem_lowercaseOf (hc : 0x80 ≤ c.toNat) (hkelvin : c ≠ kelvinSign) :
    ∃ d ∈ lowercaseOf c, 0x80 ≤ d.toNat := by
  rw [lowercaseOf, if_neg (Nat.not_lt.mpr hc)]
  by_cases hdotted : c = 'İ'
  · -- the dot of the dotted capital I
    rw [if_pos hdotted]
    exact ⟨'\u0307', by simp, by decide⟩
  rw [if_neg hdotted]
  split
  · next first last step lower hfind =>
    refine ⟨_, List.mem_singleton_self _, ?_⟩
    have hcovers := List.find?_some hfind
    rcases staysBeyondAscii_of_mem _ (List.mem_of_find?_eq_some hfind) with hrow | hrow
    · -- the row of the Kelvin sign covers nothing else
      simp only [Prod.mk.injEq] at hrow
      obtain ⟨rfl, rfl, rfl, rfl⟩ := hrow
      simp only [coversLetter, Bool.and_eq_true, decide_eq_true_eq] at hcovers
      have htoNat : c.toNat = kelvinSign.toNat := by
        change c.toNat = 0x212A
        omega
      exact absurd (Char.toNat_inj.mp htoNat) hkelvin
    · exact le_toNat_of_row hrow hcovers hc
  · exact ⟨c, List.mem_singleton_self c, hc⟩

theorem toNat_of_isUpper (h : c.isUpper = true) : 0x41 ≤ c.toNat ∧ c.toNat ≤ 0x5A := by
  have hletter : 'A'.val ≤ c.val ∧ c.val ≤ 'Z'.val := of_decide_eq_true h
  exact hletter

theorem toNat_toLower_of_isUpper (h : c.isUpper = true) : c.toLower.toNat = c.toNat + 0x20 := by
  have hlower : c.toLower.val = c.val + ('a'.val - 'A'.val) :=
    congrArg Char.val (dif_pos (of_decide_eq_true h))
  -- the sum of the two words does not overflow
  have hsum : (c.val + ('a'.val - 'A'.val)).toNat = (c.toNat + 0x20) % 2 ^ 32 :=
    UInt32.toNat_add _ _
  have hletter := toNat_of_isUpper h
  rw [Char.toNat, hlower, hsum]
  omega

theorem toLower_of_not_isUpper (h : ¬ c.isUpper = true) : c.toLower = c :=
  dif_neg fun hupper => h (decide_eq_true hupper)

theorem toLower_of_le (hc : 0x80 ≤ c.toNat) : c.toLower = c := by
  refine toLower_of_not_isUpper fun hupper => ?_
  have := toNat_of_isUpper hupper
  omega

theorem toLower_toLower (c : Char) : c.toLower.toLower = c.toLower := by
  refine toLower_of_not_isUpper fun hlower => ?_
  by_cases hupper : c.isUpper = true
  · -- small letters stand behind the capital ones
    have hletter := toNat_of_isUpper hupper
    have hsmall := toNat_of_isUpper hlower
    rw [toNat_toLower_of_isUpper hupper] at hsmall
    omega
  · rw [toLower_of_not_isUpper hupper] at hlower
    exact hupper hlower

/-- Folding the letters A to Z leads into ASCII from there only. -/
theorem toNat_toLower_lt_iff : c.toLower.toNat < 0x80 ↔ c.toNat < 0x80 := by
  by_cases hupper : c.isUpper = true
  · have := toNat_of_isUpper hupper
    rw [toNat_toLower_of_isUpper hupper]
    omega
  · rw [toLower_of_not_isUpper hupper]

theorem toLower_eq_sigma_iff : c.toLower = 'Σ' ↔ c = 'Σ' := by
  rcases Nat.lt_or_ge c.toNat 0x80 with hc | hc
  · -- the sigma is beyond ASCII
    have hlower := toNat_toLower_lt_iff.mpr hc
    exact ⟨fun h => absurd (h ▸ hlower) (by decide), fun h => absurd (h ▸ hc) (by decide)⟩
  · rw [toLower_of_le hc]

theorem lowercaseOf_toLower (c : Char) : lowercaseOf c.toLower = lowercaseOf c := by
  rcases Nat.lt_or_ge c.toNat 0x80 with hc | hc
  · rw [lowercaseOf, if_pos (toNat_toLower_lt_iff.mpr hc), lowercaseOf, if_pos hc,
      toLower_toLower]
  · rw [toLower_of_le hc]

/-- Where the ranges of a table that begin in ASCII take a letter from A to Z and its small letter
alike, the table takes a character alike before and after folding. -/
theorem inRanges_toLower {ranges below : List (Nat × Nat)}
    (hbelow : rangesBelow 0x80 ranges = below)
    (h : ∀ n, 0x41 ≤ n → n ≤ 0x5A →
      (inRanges below (n + 0x20) = true ↔ inRanges below n = true)) (c : Char) :
    inRanges ranges c.toLower.toNat = inRanges ranges c.toNat := by
  by_cases hupper : c.isUpper = true
  · obtain ⟨hge, hle⟩ := toNat_of_isUpper hupper
    have hsmall : c.toNat + 0x20 < 0x80 := by omega
    have hcapital : c.toNat < 0x80 := by omega
    rw [toNat_toLower_of_isUpper hupper, ← inRanges_rangesBelow hsmall,
      ← inRanges_rangesBelow hcapital, hbelow]
    exact Bool.eq_iff_iff.mpr (h c.toNat hge hle)
  · rw [toLower_of_not_isUpper hupper]

theorem rangesBelow_casedRanges : rangesBelow 0x80 casedRanges = [(0x41, 0x5A), (0x61, 0x7A)] := rfl

set_option maxRecDepth 2000 in
theorem rangesBelow_caseIgnorableRanges : rangesBelow 0x80 caseIgnorableRanges =
    [(0x27, 0x27), (0x2E, 0x2E), (0x3A, 0x3A), (0x5E, 0x5E), (0x60, 0x60)] := rfl

theorem isCased_toLower (c : Char) : isCased c.toLower = isCased c := by
  -- the capital letters are cased as the small ones are
  refine inRanges_toLower rangesBelow_casedRanges (fun n hge hle => ?_) c
  simp only [inRanges, List.any_cons, List.any_nil, Bool.or_false, Bool.or_eq_true,
    Bool.and_eq_true, decide_eq_true_eq]
  omega

theorem isCaseIgnorable_toLower (c : Char) : isCaseIgnorable c.toLower = isCaseIgnorable c := by
  -- no letter is case-ignorable
  refine inRanges_toLower rangesBelow_caseIgnorableRanges (fun n hge hle => ?_) c
  simp only [inRanges, List.any_cons, List.any_nil, Bool.or_false, Bool.or_eq_true,
    Bool.and_eq_true, decide_eq_true_eq]
  omega

/-! ### Texts -/

theorem isAscii_of_isAscii_lowercaseAfter {cased : Bool} (h : (lowercaseAfter cased t).IsAscii)
    (hkelvin : kelvinSign ∉ t) : t.IsAscii := by
  -- whether a letter is cased is passed on from character to character
  induction t generalizing cased with
  | nil => exact h
  | cons c t ih =>
    rw [List.mem_cons, not_or] at hkelvin
    rw [lowercaseAfter] at h
    have hrest : IsAscii t :=
      ih (fun d hd => h d (List.mem_append_right _ hd)) hkelvin.2
    refine List.forall_mem_cons.mpr ⟨?_, hrest⟩
    refine Nat.lt_of_not_le fun hc => ?_
    have hform : ∀ d ∈ if c = 'Σ' then [if cased && !startsCased t then 'ς' else 'σ']
        else lowercaseOf c, d.toNat < 0x80 := fun d hd => h d (List.mem_append_left _ hd)
    split at hform
    · -- neither form of the capital sigma is ASCII
      have hsigma := hform _ (List.mem_singleton_self _)
      split at hsigma <;> exact absurd hsigma (by decide)
    · obtain ⟨d, hd, hbeyond⟩ := exists_mem_lowercaseOf hc (Ne.symm hkelvin.1)
      exact absurd (hform d hd) (Nat.not_lt.mpr hbeyond)

/-- A text with an ASCII lower-case form is ASCII, unless it holds the Kelvin sign. -/
theorem isAscii_of_isAscii_lowercase (h : t.lowercase.IsAscii) (hkelvin : kelvinSign ∉ t) :
    t.IsAscii :=
  isAscii_of_isAscii_lowercaseAfter h hkelvin

theorem IsAscii.kelvinSign_not_mem (h : t.IsAscii) : kelvinSign ∉ t :=
  fun hmem => absurd (h kelvinSign hmem) (by decide)

/-- Folding the letters A to Z makes a text ASCII only if it was so before. -/
theorem isAscii_map_toLower_iff : IsAscii (t.map Char.toLower) ↔ t.IsAscii := by
  simp only [IsAscii, List.forall_mem_map, toNat_toLower_lt_iff]

/-- A text differs from an ASCII name in the case of the letters A to Z at most exactly if its
lower-case form is that of the name and it does not hold the Kelvin sign. -/
theorem sameIgnoringAsciiCase_iff (ht : t.IsAscii) :
    sameIgnoringAsciiCase s t = true ↔ s.lowercase = t.lowercase ∧ kelvinSign ∉ s := by
  have hname : t.lowercase = t.map Char.toLower := lowercase_of_ascii ht
  have hascii : IsAscii (t.map Char.toLower) := isAscii_map_toLower_iff.mpr ht
  rw [sameIgnoringAsciiCase, beq_iff_eq, hname]
  constructor
  · intro h
    have hs : s.IsAscii := isAscii_map_toLower_iff.mp (h ▸ hascii)
    exact ⟨(lowercase_of_ascii hs).trans h, hs.kelvinSign_not_mem⟩
  · rintro ⟨h, hkelvin⟩
    have hs : s.IsAscii := isAscii_of_isAscii_lowercase (h ▸ hascii) hkelvin
    rw [← h, lowercase_of_ascii hs]

/-! ### Folding before lower-casing -/

theorem startsCased_map_toLower (t : Text) : startsCased (t.map Char.toLower) = startsCased t := by
  induction t with
  | nil => rfl
  | cons c t ih =>
    rw [List.map_cons, startsCased, startsCased, isCaseIgnorable_toLower, isCased_toLower, ih]

theorem lowercaseAfter_map_toLower (cased : Bool) (t : Text) :
    lowercaseAfter cased (t.map Char.toLower) = lowercaseAfter cased t := by
  induction t generalizing cased with
  | nil => rfl
  | cons c t ih =>
    -- a capital sigma finds the same neighbours on both sides
    rw [List.map_cons, lowercaseAfter, lowercaseAfter, ih, isCaseIgnorable_toLower,
      isCased_toLower, lowercaseOf_toLower, startsCased_map_toLower]
    simp only [toLower_eq_sigma_iff]

/-- Folding the letters A to Z does not alter the lower-case form of a text, not even that of a
capital sigma next to such a letter. -/
theorem lowercase_map_toLower (t : Text) : lowercase (t.map Char.toLower) = lowercase t :=
  lowercaseAfter_map_toLower false t

/-- Texts that differ in the case of the letters A to Z at most have the same lower-case form. -/
theorem lowercase_eq_of_sameIgnoringAsciiCase (h : sameIgnoringAsciiCase s t = true) :
    s.lowercase = t.lowercase := by
  have hfold : s.map Char.toLower = t.map Char.toLower := eq_of_beq h
  rw [← lowercase_map_toLower s, hfold, lowercase_map_toLower]

end Text

end LootFilter
