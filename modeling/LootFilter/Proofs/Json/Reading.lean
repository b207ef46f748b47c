import LootFilter.Proofs.Json.Pretty

/-!
# Texts and numbers read back

A reader takes from a text as much as belongs to a value. A text in quotes ends at its closing
quote. A number goes on as long as it can: digits, a fraction or an exponent may follow. Behind
white space, a comma or a closing brace it is over, and a number that a word can hold is read back
from its digits.

An object is laid out on a single line or on several ones; both ways differ only in the white space
between keys, values and punctuation.

## Main definitions

* `Json.IsSpace` — white space
* `Json.EndsNumber` — what may follow a number without being part of it
* `Json.Layout`, `Json.Layout.object` — objects written with white space between their parts

## Main results

* `Json.number_ofNat` — a number is read back from its digits
* `Json.scalar_append` — texts and numbers are read back
* `Json.compact_object`, `Json.prettyAt_eq_object` — the two layouts of an object
-/

namespace LootFilter

/-! ### Digits -/

/-- The digits of a positive number do not begin with a zero. -/
theorem Text.head?_ofNat_ne_zero {n : Nat} (hn : 0 < n) : (Text.ofNat n).head? ≠ some '0' := by
  induction n using Nat.strongRecOn with
  | ind n ih =>
    by_cases hlt : n < 10
    · have hdigit : ∀ d < 10, 0 < d → [d.digitChar].head? ≠ some '0' := by decide
      rw [ofNat, Nat.toDigits_of_lt_base hlt]
      exact hdigit n hlt hn
    · -- all digits but the last one are those of a smaller number
      have hle : 10 ≤ n := Nat.not_lt.mp hlt
      have hsome : (Nat.toDigits 10 (n / 10)).head?.isSome := by
        simp [List.isSome_head?, Nat.toDigits_ne_nil]
      rw [ofNat, Nat.toDigits_of_base_le (by decide) hle, List.head?_append,
        Option.or_of_isSome hsome]
      exact ih (n / 10) (Nat.div_lt_self hn (by decide)) (Nat.div_pos hle (by decide))

/-- The digits of a number have no leading zero: a zero stands alone. -/
theorem Text.ofNat_ne_zero_cons (n : Nat) (c : Char) (ds : Text) : ofNat n ≠ '0' :: c :: ds := by
  intro h
  rcases Nat.eq_zero_or_pos n with rfl | hn
  · exact absurd (List.cons.inj h).2 (by simp)
  · exact head?_ofNat_ne_zero hn (congrArg List.head? h)

theorem le_ofDigitChars (ds : Text) (n : Nat) : n ≤ Nat.ofDigitChars 10 ds n := by
  induction ds generalizing n with
  | nil => exact Nat.le_refl n
  | cons d ds ih =>
    have hstep : n ≤ 10 * n + (d.toNat - '0'.toNat) := by omega
    exact Nat.le_trans hstep (ih _)

/-- Digits of a number that fits into a word are all part of its leading word. -/
theorem leadingWord_eq {n : Nat} {ds : Text} (h : Nat.ofDigitChars 10 ds n < 1 <<< 64) :
    leadingWord n ds = (Nat.ofDigitChars 10 ds n, 0) := by
  induction ds generalizing n with
  | nil => rfl
  | cons d ds ih =>
    have hnext : 10 * n + (d.toNat - '0'.toNat) < 1 <<< 64 :=
      Nat.lt_of_le_of_lt (le_ofDigitChars ds _) h
    rw [leadingWord, if_pos hnext]
    exact ih h

/-- A small number is not beyond the range of double precision. -/
theorem productIsBeyondDouble_ofNat {n : Nat} (h : n < 1 <<< 53) :
    productIsBeyondDouble (Text.ofNat n) 0 = false := by
  have hvalue : Nat.ofDigitChars 10 (Text.ofNat n) 0 = n := Nat.ofDigitChars_ten_toDigits
  have hword : leadingWord 0 (Text.ofNat n) = (n, 0) := by
    rw [leadingWord_eq, hvalue]
    rw [hvalue]
    exact Nat.lt_trans h (by decide)
  have hone : nearestDouble 1 = 1 := nearestDouble_of_lt (by decide)
  have hlimit : n < doubleLimit := Nat.lt_trans h (by decide +kernel)
  have hinside : decide (doubleLimit ≤ nearestDouble n * nearestDouble 1) = false := by
    rw [nearestDouble_of_lt h, hone, Nat.mul_one]
    exact decide_eq_false (Nat.not_le.mpr hlimit)
  rw [productIsBeyondDouble, hword]
  dsimp only
  -- no digit has been left out, so the power of ten is one
  split
  · rfl
  split
  · next hpower => exact absurd hpower (by decide)
  · exact hinside

namespace Json

variable {t r : Text}

/-! ### White space -/

/-- White space between the parts of a value. -/
def IsSpace (t : Text) : Prop := ∀ c ∈ t, isSpace c = true

instance (t : Text) : Decidable (IsSpace t) :=
  List.decidableBAll _ _

theorem isSpace_lineBreak (level : Nat) : IsSpace (lineBreak level) := by
  intro c hc
  rcases List.mem_cons.mp hc with rfl | hc
  · rfl
  · rw [List.eq_of_mem_replicate hc]
    rfl

theorem skipSpace_append (h : IsSpace t) (r : Text) : skipSpace (t ++ r) = skipSpace r :=
  List.dropWhile_append_of_pos h

theorem skipSpace_cons {c : Char} (h : isSpace c = false) (r : Text) :
    skipSpace (c :: r) = c :: r := by
  rw [skipSpace, List.dropWhile_cons_of_neg (by simp [h])]

theorem skipSpace_of_isSpace (h : IsSpace t) : skipSpace t = [] := by
  have happend := skipSpace_append h []
  rwa [List.append_nil] at happend

/-! ### Texts and numbers -/

/-- A text that cannot belong to a number in front of it. -/
def EndsNumber (r : Text) : Prop :=
  ∀ c ∈ r.head?, c.isDigit = false ∧ c ≠ '.' ∧ c ≠ 'e' ∧ c ≠ 'E'

theorem EndsNumber.stops (h : EndsNumber r) : Stops r := fun c hc => (h c hc).1

theorem endsNumber_cons {c : Char} (h : isSpace c = true ∨ c = ',' ∨ c = '}') (r : Text) :
    EndsNumber (c :: r) := by
  intro d hd
  obtain rfl := Option.some.inj hd
  rcases h with h | rfl | rfl
  · simp only [isSpace, Bool.or_eq_true, beq_iff_eq] at h
    rcases h with ((rfl | rfl) | rfl) | rfl <;> decide
  · decide
  · decide

/-- White space may follow a number, and then what may follow it without the white space. -/
theorem endsNumber_append (h : IsSpace t) (hr : EndsNumber r) : EndsNumber (t ++ r) := by
  cases t with
  | nil => exact hr
  | cons c t => exact endsNumber_cons (Or.inl (h c List.mem_cons_self)) _

theorem digits_ofNat_append (n : Nat) (h : Stops r) :
    digits (Text.ofNat n ++ r) = (Text.ofNat n, r) := by
  rw [digits, takeWhile_ofNat_append n h, dropWhile_ofNat_append n h]

theorem fraction_of_endsNumber (h : EndsNumber r) : fraction .asked r = .ok (none, r) := by
  unfold fraction
  split
  · exact absurd rfl (h '.' rfl).2.1
  · rfl

theorem exponent_of_endsNumber (h : EndsNumber r) : exponent .asked r = .ok (none, r) := by
  cases r with
  | nil => rfl
  | cons c r =>
    obtain ⟨-, -, hlower, hupper⟩ := h c rfl
    rw [exponent, if_neg (not_or.mpr ⟨hlower, hupper⟩)]

/-- A number that a double can hold is read back from its digits. -/
theorem unsignedNumber_ofNat {n : Nat} (hn : n < 1 <<< 53) (h : EndsNumber r) :
    unsignedNumber .asked false (Text.ofNat n ++ r) = .ok (.ofNat n, r) := by
  have hvalue : Nat.ofDigitChars 10 (Text.ofNat n) 0 = n := Nat.ofDigitChars_ten_toDigits
  rw [unsignedNumber, digits_ofNat_append n h.stops]
  -- neither are the digits missing, nor do they have a leading zero
  split
  · next hdigits => exact absurd (Prod.mk.inj hdigits).1 (Text.ofNat_ne_nil n)
  · next hdigits => exact absurd (Prod.mk.inj hdigits).1 (Text.ofNat_ne_zero_cons n _ _)
  · next whole rest _ _ hdigits =>
    obtain ⟨rfl, rfl⟩ := Prod.mk.inj hdigits
    simp only [fraction_of_endsNumber h, exponent_of_endsNumber h, bind, Except.bind, hvalue]
    simp [productIsBeyondDouble_ofNat hn, ofNat]

/-- A number that a double can hold is read back from its digits. -/
theorem scalar_ofNat {n : Nat} (hn : n < 1 <<< 53) (h : EndsNumber r) :
    scalar .asked (Text.ofNat n ++ r) = .ok (.ofNat n, r) := by
  obtain ⟨c, ds, hc, hdigit⟩ := exists_ofNat_eq_cons n
  have hnumber := unsignedNumber_ofNat hn h
  rw [hc, List.cons_append] at hnumber ⊢
  have hne {d : Char} (hd : d.isDigit = false) : c ≠ d := Text.ne_of_holds hdigit hd
  unfold scalar
  -- a digit begins none of the fixed words and no text
  split
  · next heq => cases heq
  · next heq => exact absurd (List.cons.inj heq).1 (hne rfl)
  · next heq => exact absurd (List.cons.inj heq).1 (hne rfl)
  · next heq => exact absurd (List.cons.inj heq).1 (hne rfl)
  · next heq => exact absurd (List.cons.inj heq).1 (hne rfl)
  · next d rest _ _ _ _ heq =>
    obtain ⟨rfl, rfl⟩ := List.cons.inj heq
    rw [if_pos (Or.inr hdigit)]
    unfold number
    split
    · next heq => exact absurd (List.cons.inj heq).1 (hne rfl)
    · exact hnumber

/-- A text is read back from its quotes. -/
theorem scalar_quoted (t r : Text) : scalar .asked (quoted t ++ r) = .ok (.string t, r) := by
  have hquoted : quoted t ++ r = '"' :: (escaped t ++ '"' :: r) := by
    simp [quoted]
  rw [hquoted, scalar, stringFrom_escaped]
  rfl

/-- A text, or a number that a double can hold. -/
inductive IsLeaf : Json → Prop
  | string (t : Text) : IsLeaf (.string t)
  | ofNat {n : Nat} (h : n < 1 <<< 53) : IsLeaf (.ofNat n)

section Leaves

variable {j : Json}

/-- Texts and numbers are read back, whatever follows that does not belong to a number. -/
theorem IsLeaf.scalar_append (h : j.IsLeaf) (hr : EndsNumber r) :
    scalar .asked (j.compact ++ r) = .ok (j, r) := by
  cases h with
  | string t => exact scalar_quoted t r
  | ofNat hn => exact scalar_ofNat hn hr

theorem IsLeaf.prettyAt_eq (h : j.IsLeaf) (level : Nat) : prettyAt level j = j.compact := by
  cases h <;> rfl

/-- Texts and numbers begin with a character that is no white space, and begins no list and no
object. -/
theorem IsLeaf.exists_lead (h : j.IsLeaf) :
    ∃ c t, j.compact = c :: t ∧ isSpace c = false ∧ c ≠ '[' ∧ c ≠ '{' := by
  cases h with
  | string t => exact ⟨'"', escaped t ++ ['"'], rfl, by decide⟩
  | @ofNat n hn =>
    obtain ⟨c, t, hc, hdigit⟩ := exists_ofNat_eq_cons n
    have hne {d : Char} (hd : d.isDigit = false) : c ≠ d := Text.ne_of_holds hdigit hd
    refine ⟨c, t, hc, ?_, hne rfl, hne rfl⟩
    simp [isSpace, hne (d := ' ') rfl, hne (d := '\t') rfl, hne (d := '\n') rfl,
      hne (d := '\r') rfl]

end Leaves

/-! ### Objects -/

/-- The white space between the parts of an object. -/
structure Layout where
  /-- What stands in front of a key. -/
  beforeKey : Text
  /-- What stands between a colon and a value. -/
  beforeValue : Text
  /-- What stands in front of the closing brace. -/
  beforeEnd : Text
  isSpace_beforeKey : IsSpace beforeKey
  isSpace_beforeValue : IsSpace beforeValue
  isSpace_beforeEnd : IsSpace beforeEnd

namespace Layout

/-- An object on a single line. -/
def singleLine : Layout := ⟨[], [], [], by decide, by decide, by decide⟩

/-- An object with its fields on lines of their own. -/
def severalLines (level : Nat) : Layout :=
  ⟨lineBreak (level + 1), [' '], lineBreak level, isSpace_lineBreak _, by decide,
    isSpace_lineBreak _⟩

/-- A field of an object. -/
def field (l : Layout) (f : Text × Json) : Text :=
  l.beforeKey ++ quoted f.1 ++ ':' :: l.beforeValue ++ f.2.compact

/-- The fields of an object and its closing brace. -/
def body (l : Layout) (fs : List (Text × Json)) : Text :=
  Text.joined "," (fs.map l.field) ++ l.beforeEnd ++ ['}']

variable {l : Layout} {f g : Text × Json} {fs : List (Text × Json)}

theorem body_singleton : l.body [f] = l.field f ++ (l.beforeEnd ++ ['}']) := by
  simp [body, Text.joined]

theorem body_cons_cons : l.body (f :: g :: fs) = l.field f ++ ',' :: l.body (g :: fs) := by
  simp [body, Text.joined]

/-- An object has at least as many characters as fields. -/
theorem length_le_length_body (l : Layout) (fs : List (Text × Json)) :
    fs.length ≤ (l.body fs).length := by
  induction fs with
  | nil => exact Nat.zero_le _
  | cons f fs ih =>
    cases fs with
    | nil =>
      rw [body_singleton, List.length_append, List.length_append, List.length_singleton,
        List.length_singleton]
      omega
    | cons g fs =>
      rw [body_cons_cons, List.length_append, List.length_cons, List.length_cons]
      simp only [List.length_cons] at ih ⊢
      omega

/-- Behind white space, an object begins with the quote of its first key; at least one character
follows for each of the other fields. -/
theorem exists_body_eq (l : Layout) (f : Text × Json) (fs : List (Text × Json)) :
    ∃ t, l.body (f :: fs) = l.beforeKey ++ '"' :: t ∧ fs.length ≤ t.length := by
  have hfield : l.field f = l.beforeKey ++
      '"' :: (escaped f.1 ++ '"' :: ':' :: (l.beforeValue ++ f.2.compact)) := by
    simp [field, quoted]
  cases fs with
  | nil =>
    rw [body_singleton, hfield, List.append_assoc, List.cons_append]
    exact ⟨_, rfl, Nat.zero_le _⟩
  | cons g fs =>
    rw [body_cons_cons, hfield, List.append_assoc, List.cons_append]
    refine ⟨_, rfl, ?_⟩
    have hlength := l.length_le_length_body (g :: fs)
    simp only [List.length_append, List.length_cons] at hlength ⊢
    omega

end Layout

theorem compactFields_eq_map (fs : List (Text × Json)) :
    compactFields fs = fs.map Layout.singleLine.field := by
  induction fs with
  | nil => rfl
  | cons f fs ih =>
    rw [compactFields, ih, List.map_cons]
    simp [Layout.field, Layout.singleLine]

/-- An object on a single line. -/
theorem compact_object (fs : List (Text × Json)) :
    compact (.object fs) = '{' :: Layout.singleLine.body fs := by
  rw [compact, compactFields_eq_map, braces, Layout.body]
  simp [Layout.singleLine]

/-- What stands in front of the first text, and behind each comma, belongs to the texts. -/
theorem append_joined (a t : Text) (ts : List Text) :
    a ++ Text.joined (',' :: a) (t :: ts) = Text.joined "," ((t :: ts).map (a ++ ·)) := by
  rw [List.map_cons, joined_cons, joined_cons, List.flatMap_map]
  simp

/-- An object on several lines, whose values are texts and numbers. -/
theorem prettyAt_object_of_leaves {fs : List (Text × Json)} (hne : fs ≠ [])
    (h : ∀ f ∈ fs, f.2.IsLeaf) (level : Nat) :
    prettyAt level (.object fs) = '{' :: (Layout.severalLines level).body fs := by
  have hfield : ∀ f ∈ fs, lineBreak (level + 1) ++ Json.field (level + 1) f =
      (Layout.severalLines level).field f := by
    intro f hf
    simp [Json.field, Layout.field, Layout.severalLines, (h f hf).prettyAt_eq]
  obtain ⟨f, rest, rfl⟩ := List.exists_cons_of_ne_nil hne
  have hbody : lineBreak (level + 1) ++
      Text.joined (',' :: lineBreak (level + 1)) ((f :: rest).map (Json.field (level + 1))) =
        Text.joined "," ((f :: rest).map (Layout.severalLines level).field) := by
    rw [← List.map_congr_left hfield, List.map_cons, append_joined, List.map_cons, List.map_map]
    rfl
  rw [prettyAt_object, List.map_cons, framed, braces, indented, ← List.map_cons, hbody,
    Layout.body]
  simp [Layout.severalLines]

end Json

end LootFilter
