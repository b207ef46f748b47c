import LootFilter.Text.Basic

/-!
# Integer literals

Integers as filters, settings and arguments write them: an optional sign and ASCII digits. A
number has to fit into a signed word of 64 bits; a literal beyond that range is refused.

## Main definitions

* `Literal.natural?` — digits only, of any length
* `Literal.integer?` — an optional sign and digits, within the range of a word
* `Literal.isWord` — the range
* `Literal.IsDecimal`, `Literal.Writes` — which texts write a number

## Main results

* `Literal.natural?_ofNat`, `Literal.integer?_ofInt` — numbers are read back from their notation
* `Literal.natural?_eq_some_iff`, `Literal.integer?_of_digits` — what digits alone stand for
* `Literal.integer?_eq_some_iff` — the literals of a number are the texts that write it
-/

namespace LootFilter.Literal

/-- The integers that fit into a signed word of 64 bits. -/
def isWord (n : Int) : Bool := -0x8000000000000000 ≤ n && n < 0x8000000000000000

/-- The number written by ASCII digits, if the text consists of them. -/
def natural? (t : Text) : Option Nat :=
  if t.isEmpty || t.any (!·.isDigit) then none else some (Nat.ofDigitChars 10 t 0)

/-- The number written by an optional sign and ASCII digits. -/
def signed? : Text → Option Int
  | '+' :: digits => (natural? digits).map fun (n : Nat) => (n : Int)
  | '-' :: digits => (natural? digits).map fun (n : Nat) => -(n : Int)
  | digits => (natural? digits).map fun (n : Nat) => (n : Int)

/-- An integer literal: an optional sign and digits, within the range of a word. -/
def integer? (t : Text) : Option Int := (signed? t).filter isWord

/-- A text writes a natural number by ASCII digits. There may be zeros in front. -/
structure IsDecimal (t : Text) (n : Nat) : Prop where
  ne_nil : t ≠ []
  isDigit : ∀ c ∈ t, c.isDigit = true
  value : Nat.ofDigitChars 10 t 0 = n

/-- A text writes an integer that fits into a word: by digits alone or with a sign in front. The
least word has a magnitude that no other word has. -/
inductive Writes : Text → Int → Prop
  | bare {digits : Text} {n : Nat} (h : IsDecimal digits n) (hn : n < 0x8000000000000000) :
      Writes digits n
  | plus {digits : Text} {n : Nat} (h : IsDecimal digits n) (hn : n < 0x8000000000000000) :
      Writes ('+' :: digits) n
  | minus {digits : Text} {n : Nat} (h : IsDecimal digits n) (hn : n ≤ 0x8000000000000000) :
      Writes ('-' :: digits) (-n)

theorem natural?_eq_some_iff {t : Text} {n : Nat} : natural? t = some n ↔ IsDecimal t n := by
  have hdigits : (t.isEmpty || t.any (!·.isDigit)) = false ↔
      t ≠ [] ∧ ∀ c ∈ t, c.isDigit = true := by simp
  unfold natural?
  constructor
  · intro h
    split at h
    · exact absurd h (by simp)
    · next haccepted =>
      obtain ⟨hne, hall⟩ := hdigits.mp (Bool.eq_false_iff.mpr haccepted)
      exact ⟨hne, hall, Option.some.inj h⟩
  · rintro ⟨hne, hall, rfl⟩
    rw [hdigits.mpr ⟨hne, hall⟩]
    rfl

theorem isDecimal_ofNat (n : Nat) : IsDecimal (Text.ofNat n) n :=
  ⟨Text.ofNat_ne_nil n, fun _ h => Text.isDigit_of_mem_ofNat h, Nat.ofDigitChars_ten_toDigits⟩

/-- A natural number is read back from its decimal notation. -/
theorem natural?_ofNat (n : Nat) : natural? (Text.ofNat n) = some n :=
  natural?_eq_some_iff.mpr (isDecimal_ofNat n)

theorem isWord_natCast_iff {n : Nat} : isWord (n : Int) = true ↔ n < 0x8000000000000000 := by
  simp only [isWord, Bool.and_eq_true, decide_eq_true_eq]
  omega

theorem isWord_neg_natCast_iff {n : Nat} : isWord (-(n : Int)) = true ↔ n ≤ 0x8000000000000000 := by
  simp only [isWord, Bool.and_eq_true, decide_eq_true_eq]
  omega

/-- Digits carry no sign. -/
theorem signed?_of_digits {t : Text} (h : ∀ c ∈ t, c.isDigit = true) :
    signed? t = (natural? t).map fun n : Nat => (n : Int) := by
  unfold signed?
  split
  · exact absurd (h '+' (by simp)) (by decide)
  · exact absurd (h '-' (by simp)) (by decide)
  · rfl

/-- Digits alone stand for the number that they write, if it fits into a word. -/
theorem integer?_of_digits {t : Text} (hne : t ≠ []) (h : ∀ c ∈ t, c.isDigit = true) :
    integer? t =
      if Nat.ofDigitChars 10 t 0 < 0x8000000000000000 then some (Nat.ofDigitChars 10 t 0 : Int)
      else none := by
  have hn : natural? t = some (Nat.ofDigitChars 10 t 0) := natural?_eq_some_iff.mpr ⟨hne, h, rfl⟩
  simp only [integer?, signed?_of_digits h, hn, Option.map_some, Option.filter_some,
    isWord_natCast_iff]

/-- The literals of a number are the texts that write it by a sign, if any, and decimal digits. -/
theorem integer?_eq_some_iff {t : Text} {n : Int} : integer? t = some n ↔ Writes t n := by
  rw [integer?, Option.filter_eq_some_iff]
  constructor
  · rintro ⟨hsigned, hword⟩
    unfold signed? at hsigned
    -- the reader looks for either sign before it takes the text for digits
    split at hsigned
    all_goals
      obtain ⟨m, hm, rfl⟩ := Option.map_eq_some_iff.mp hsigned
      have hdecimal := natural?_eq_some_iff.mp hm
    · exact .plus hdecimal (isWord_natCast_iff.mp hword)
    · exact .minus hdecimal (isWord_neg_natCast_iff.mp hword)
    · exact .bare hdecimal (isWord_natCast_iff.mp hword)
  · intro h
    cases h with
    | bare h hn =>
      rw [signed?_of_digits h.isDigit, natural?_eq_some_iff.mpr h]
      exact ⟨rfl, isWord_natCast_iff.mpr hn⟩
    | plus h hn =>
      rw [signed?, natural?_eq_some_iff.mpr h]
      exact ⟨rfl, isWord_natCast_iff.mpr hn⟩
    | minus h hn =>
      rw [signed?, natural?_eq_some_iff.mpr h]
      exact ⟨rfl, isWord_neg_natCast_iff.mpr hn⟩

/-- A literal that is accepted lies within the range of a word. -/
theorem isWord_of_integer? {t : Text} {n : Int} (h : integer? t = some n) : isWord n = true :=
  (Option.filter_eq_some_iff.1 h).2

/-- An integer within the range of a word is read back from its decimal notation. -/
theorem integer?_ofInt {n : Int} (h : isWord n = true) : integer? (Text.ofInt n) = some n := by
  rw [integer?_eq_some_iff]
  cases n with
  | ofNat n => exact .bare (isDecimal_ofNat n) (isWord_natCast_iff.mp h)
  | negSucc n => exact .minus (isDecimal_ofNat (n + 1)) (isWord_neg_natCast_iff.mp h)

end LootFilter.Literal
