import LootFilter.Filter.Listing

/-!
# Shortened texts

A text that is longer than a limit is cut, and dots show that something is missing. The dots count
against the limit like other characters, so the text is cut early enough to make room for them. But
they are never cut themselves. A limit below three has no room for them, and a text that is longer
than such a limit becomes three dots, which exceed it as well.

So the limit is kept for texts that keep it anyway, and for limits with room for the dots. A second
time changes nothing in either case: where the limit is kept there is nothing to cut, and where it
is exceeded three dots become three dots.

The listing of blocks has room for the dots.

## Main results

* `Text.length_shortened` — how long a shortened text is
* `Text.shortened_shortened` — shortening twice is shortening once
* `Text.length_shortened_le_iff_and_cut` — which limits are kept, and what is left of a text
* `Text.not_forall_length_shortened_le` — a limit can be exceeded
* `Listing.length_le_of_mem_conditionLines` — the lines for conditions are limited
-/

namespace LootFilter

namespace Text

variable {limit : Nat} {t : Text}

/-- A text that is too long becomes as long as the limit, or as long as the dots. -/
theorem length_shortened (limit : Nat) (t : Text) :
    (shortened limit t).length =
      if t.length ≤ limit then t.length else max limit ellipsis.length := by
  split
  next h => rw [shortened_eq_self h]
  next h =>
    rw [shortened_of_lt (Nat.lt_of_not_le h), List.length_append, List.length_take]
    omega

/-- The limit is kept for texts that keep it anyway, and for limits with room for the dots. -/
theorem length_shortened_le_iff :
    (shortened limit t).length ≤ limit ↔ t.length ≤ limit ∨ ellipsis.length ≤ limit := by
  rw [length_shortened]
  split <;> omega

/-- Without room for the dots they are all that is left of a text. -/
theorem shortened_eq_ellipsis (hlimit : limit < ellipsis.length) (h : limit < t.length) :
    shortened limit t = ellipsis := by
  have hnothing : limit - ellipsis.length = 0 := by omega
  rw [shortened_of_lt h, hnothing, List.take_zero, List.nil_append]

/-- What is left of a text that is too long is a first part of it, with the dots behind. -/
theorem exists_prefix_of_lt (h : limit < t.length) :
    ∃ kept, kept <+: t ∧ kept.length = limit - ellipsis.length ∧
      shortened limit t = kept ++ ellipsis := by
  refine ⟨t.take (limit - ellipsis.length), List.take_prefix _ t, ?_, shortened_of_lt h⟩
  rw [List.length_take]
  omega

/-- Shortening a text twice is shortening it once. -/
@[simp] theorem shortened_shortened (limit : Nat) (t : Text) :
    shortened limit (shortened limit t) = shortened limit t := by
  by_cases hkept : (shortened limit t).length ≤ limit
  · exact shortened_eq_self hkept
  · -- the limit is exceeded, by dots and nothing else
    rw [length_shortened_le_iff, not_or, Nat.not_le, Nat.not_le] at hkept
    obtain ⟨ht, hlimit⟩ := hkept
    rw [shortened_eq_ellipsis hlimit ht, shortened_eq_ellipsis hlimit hlimit]

/-- **Shortened texts.** A shortened text keeps its limit exactly if the text did so before or the
limit is three or more. A text that keeps the limit is left as it is. Of a longer one a first part
is left, which is three characters shorter than the limit as far as that is possible, and three dots
stand behind it. Shortening the text once more with the same limit changes nothing. -/
theorem length_shortened_le_iff_and_cut (limit : Nat) (t : Text) :
    ((shortened limit t).length ≤ limit ↔ t.length ≤ limit ∨ 3 ≤ limit) ∧
      (t.length ≤ limit → shortened limit t = t) ∧
      (limit < t.length → ∃ kept : Text, kept <+: t ∧ kept.length = limit - 3 ∧
        shortened limit t = kept ++ "...") ∧
      shortened limit (shortened limit t) = shortened limit t :=
  ⟨length_shortened_le_iff, shortened_eq_self, exists_prefix_of_lt, shortened_shortened limit t⟩

/-- With a limit of zero a name becomes three dots. -/
theorem not_forall_length_shortened_le :
    ¬ ∀ (limit : Nat) (t : Text), (shortened limit t).length ≤ limit := by
  intro h
  have hdots : shortened 0 "Chaos Orb" = "..." := by decide
  have hlength := h 0 "Chaos Orb"
  rw [hdots] at hlength
  exact absurd hlength (by decide)

end Text

namespace Listing

variable {inks : Bool} {b : Block} {line : Text}

/-- A line for a condition, or the note that there is none, is no longer than the indentation and
the limit for conditions together. -/
theorem length_le_of_mem_conditionLines (h : line ∈ conditionLines inks b) :
    line.length ≤ indentation.length + conditionLimit := by
  unfold conditionLines at h
  split at h
  · obtain rfl := List.mem_singleton.1 h
    cases inks <;> decide
  · obtain ⟨c, -, rfl⟩ := List.mem_map.1 h
    have hroom : Text.ellipsis.length ≤ conditionLimit := by decide
    have hkept : (Text.shortened conditionLimit c.display).length ≤ conditionLimit :=
      Text.length_shortened_le_iff.2 (.inr hroom)
    rw [List.length_append]
    omega

end Listing

end LootFilter
