import LootFilter.Text.Basic

/-!
# Blank characters

The characters that separate words and surround lines: the Unicode property White_Space, 25
characters in ten ranges. Zero-width characters are not among them.

## Main definitions

* `isBlank` — the property
* `Text.trimStart`, `Text.trimEnd`, `Text.trim` — a text without surrounding blanks

## Main results

* `isBlank_of_isWhitespace` — the table extends the ASCII class
* `Text.trimStart_eq_self_iff` — what is left alone starts with no blank
-/

namespace LootFilter

/-- The closed ranges of code points with the property White_Space. -/
def blankRanges : List (Nat × Nat) :=
  [(0x09, 0x0D), (0x20, 0x20), (0x85, 0x85), (0xA0, 0xA0), (0x1680, 0x1680), (0x2000, 0x200A),
   (0x2028, 0x2029), (0x202F, 0x202F), (0x205F, 0x205F), (0x3000, 0x3000)]

/-- Whether a code point lies in one of the closed ranges. -/
def inRanges (ranges : List (Nat × Nat)) (n : Nat) : Bool :=
  ranges.any fun r => r.1 ≤ n && n ≤ r.2

/-- A blank character: white space in the sense of Unicode. -/
def isBlank (c : Char) : Bool := inRanges blankRanges c.toNat

/-- The table adds to the ASCII class of white space and takes nothing away. -/
theorem isBlank_of_isWhitespace {c : Char} (h : c.isWhitespace = true) : isBlank c = true := by
  simp [Char.isWhitespace] at h
  rcases h with ((h | h) | h) | h <;> subst h <;> decide

-- a character without width separates no words
example : isBlank '\u200b' = false := by decide

theorem isBlank_space : isBlank ' ' = true := by decide

namespace Text

/-- The text from its first character that is not blank. -/
def trimStart (t : Text) : Text := t.dropWhile isBlank

/-- The text up to its last character that is not blank. -/
def trimEnd : Text → Text
  | [] => []
  | c :: rest =>
    match trimEnd rest with
    | [] => if isBlank c then [] else [c]
    | kept => c :: kept

/-- The text without surrounding blanks. -/
def trim (t : Text) : Text := trimEnd (trimStart t)

/-- Whether a text has no character that is not blank. -/
def isBlankText (t : Text) : Bool := t.all isBlank

@[simp] theorem trimStart_nil : trimStart [] = [] := rfl

@[simp] theorem trimEnd_nil : trimEnd [] = [] := rfl

theorem trimStart_cons (c : Char) (t : Text) :
    trimStart (c :: t) = if isBlank c then trimStart t else c :: t := by
  by_cases h : isBlank c <;> simp [trimStart, h]

theorem trimStart_eq_self_iff {t : Text} : trimStart t = t ↔ ∀ c ∈ t.head?, isBlank c = false := by
  cases t with
  | nil => simp
  | cons c t =>
    by_cases h : isBlank c
    · simp only [trimStart_cons, h, if_true, List.head?_cons, Option.mem_some_iff, forall_eq',
        Bool.true_eq_false, iff_false]
      intro e
      have := (List.dropWhile_suffix isBlank (l := t)).length_le
      have e' := congrArg List.length e
      simp only [trimStart, List.length_cons] at e'
      omega
    · simp [trimStart_cons, h]

end Text

end LootFilter
