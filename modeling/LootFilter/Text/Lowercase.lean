import LootFilter.Text.CaseTable

/-!
# Lower case

Lower-casing by the rules of Unicode. Nearly every letter has one form of its own. The dotted
capital I becomes two characters, and a capital sigma at the end of a word becomes a final sigma:
one with a cased character before it and none after it, case-ignorable characters not counting.

## Main definitions

* `lowercaseOf` — the lower-case form of a single character
* `Text.lowercase` — the lower-case form of a text
* `Text.sameIgnoringAsciiCase` — equality up to the case of the letters A to Z

## Main results

* `Text.lowercase_of_ascii` — on ASCII texts lower-casing goes letter by letter
-/

namespace LootFilter

/-- Whether a row of the table gives the lower-case form of a code point. -/
def coversLetter (n : Nat) : Nat × Nat × Nat × Nat → Bool
  | (first, last, step, _) => first ≤ n && n ≤ last && (n - first) % step == 0

/-- The lower-case form of a single character, apart from its neighbours. -/
def lowercaseOf (c : Char) : Text :=
  if c.toNat < 0x80 then [c.toLower]
  else if c = 'İ' then ['i', '\u0307']
  else
    match lowercaseRows.find? (coversLetter c.toNat) with
    | some (first, _, _, lower) => [Char.ofNat (lower + (c.toNat - first))]
    | none => [c]

namespace Text

/-- Whether the first character that is not case-ignorable is cased. -/
def startsCased : Text → Bool
  | [] => false
  | c :: rest => if isCaseIgnorable c then startsCased rest else isCased c

/-- The lower-case form of a text. The flag tells whether the last character before it that is not
case-ignorable is cased. -/
def lowercaseAfter (cased : Bool) : Text → Text
  | [] => []
  | c :: rest =>
    (if c = 'Σ' then [if cased && !startsCased rest then 'ς' else 'σ'] else lowercaseOf c) ++
      lowercaseAfter (if isCaseIgnorable c then cased else isCased c) rest

/-- The lower-case form of a text. -/
def lowercase (t : Text) : Text := lowercaseAfter false t

/-- Whether two texts differ at most in the case of the letters A to Z. -/
def sameIgnoringAsciiCase (s t : Text) : Bool := s.map Char.toLower == t.map Char.toLower

theorem lowercaseAfter_of_ascii {t : Text} (h : ∀ c ∈ t, c.toNat < 0x80) (cased : Bool) :
    lowercaseAfter cased t = t.map Char.toLower := by
  induction t generalizing cased with
  | nil => rfl
  | cons c t ih =>
    have hc := h c (by simp)
    have hs : c ≠ 'Σ' := by
      rintro rfl
      exact absurd hc (by decide)
    simp [lowercaseAfter, lowercaseOf, hc, hs, ih fun d hd => h d (by simp [hd])]

/-- On ASCII texts lower-casing goes letter by letter. -/
theorem lowercase_of_ascii {t : Text} (h : ∀ c ∈ t, c.toNat < 0x80) :
    lowercase t = t.map Char.toLower :=
  lowercaseAfter_of_ascii h false

end Text

end LootFilter
