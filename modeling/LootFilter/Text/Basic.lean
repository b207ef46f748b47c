/-!
# Texts

A text is a list of characters. String literals stand for the texts they spell, so that keywords,
labels and messages read as they are written, while every definition and every law is about lists.

## Main definitions

* `Text` — a list of characters
* `Text.ofNat`, `Text.ofInt` — numbers in decimal notation
* `Text.joined` — texts with a separator between neighbours
* `Text.byteCount` — the length of a text in bytes
* `Text.padLeft`, `Text.padRight` — texts filled up with spaces to a width
-/

namespace LootFilter

/-- A text: a list of characters. -/
abbrev Text := List Char

/-- A string literal spells a text. -/
instance : Coe String Text := ⟨String.toList⟩

namespace Text

/-- The decimal digits of a natural number, without leading zeros. -/
def ofNat (n : Nat) : Text := Nat.toDigits 10 n

/-- An integer in decimal notation: a minus sign in front of a negative one. -/
def ofInt : Int → Text
  | .ofNat n => ofNat n
  | .negSucc n => '-' :: ofNat (n + 1)

/-- The two spellings of a truth value. -/
def ofBool (b : Bool) : Text := if b then "true" else "false"

/-- The texts one after the other, with `separator` between neighbours. -/
def joined (separator : Text) : List Text → Text
  | [] => []
  | [t] => t
  | t :: rest => t ++ separator ++ joined separator rest

/-- The number of bytes of a text in the encoding of files. -/
def byteCount : Text → Nat
  | [] => 0
  | c :: rest => c.utf8Size + byteCount rest

/-- A text with spaces in front, up to the given width. -/
def padLeft (width : Nat) (t : Text) : Text := List.replicate (width - t.length) ' ' ++ t

/-- A text with spaces behind, up to the given width. -/
def padRight (width : Nat) (t : Text) : Text := t ++ List.replicate (width - t.length) ' '

theorem ofNat_ne_nil (n : Nat) : ofNat n ≠ [] := Nat.toDigits_ne_nil

theorem isDigit_of_mem_ofNat {n : Nat} {c : Char} (h : c ∈ ofNat n) : c.isDigit = true :=
  Nat.isDigit_of_mem_toDigits (by decide) (by decide) h

/-- The characters of joined texts are those of the texts and of the separator. -/
theorem mem_joined {c : Char} {separator : Text} {ts : List Text} (h : c ∈ joined separator ts) :
    c ∈ separator ∨ ∃ t ∈ ts, c ∈ t := by
  induction ts using joined.induct with
  | case1 => cases h
  | case2 t => exact Or.inr ⟨t, List.mem_singleton_self t, h⟩
  | case3 t ts hne ih =>
    rw [joined.eq_3 _ _ _ hne, List.mem_append, List.mem_append] at h
    rcases h with (h | h) | h
    · exact Or.inr ⟨t, List.mem_cons_self, h⟩
    · exact Or.inl h
    · rcases ih h with hseparator | ⟨u, hu, hc⟩
      · exact Or.inl hseparator
      · exact Or.inr ⟨u, List.mem_cons_of_mem t hu, hc⟩

/-- Characters are told apart by what holds of one and not of the other. -/
theorem ne_of_holds {p : Char → Bool} {c d : Char} (hc : p c = true) (hd : p d = false) :
    c ≠ d := by
  rintro rfl
  rw [hc] at hd
  exact Bool.noConfusion hd

end Text

end LootFilter
