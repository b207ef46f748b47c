import LootFilter.Report.Diagnostic

/-!
# Texts without control characters

What the program itself puts into its output, such as labels, numbers and colours, holds no control
characters: no line end and no escape character. Where one of them turns up in the output, it comes
from a text that the program was given.

## Main definitions

* `Text.IsPrintable` — a text without control characters

## Main results

* `Text.IsPrintable.not_mem` — a control character is in no such text
* `Color.isPrintable_css` — colours are written without control characters
-/

namespace LootFilter

namespace Text

/-- A text without control characters, which are those that come before the space. -/
def IsPrintable (t : Text) : Prop := ∀ c ∈ t, 0x20 ≤ c.toNat

instance (t : Text) : Decidable t.IsPrintable :=
  List.decidableBAll _ _

variable {s t : Text} {c : Char}

theorem IsPrintable.not_mem (h : t.IsPrintable) (hc : c.toNat < 0x20) : c ∉ t := by
  intro hmem
  exact absurd (h c hmem) (Nat.not_le.mpr hc)

@[simp] theorem isPrintable_nil : IsPrintable [] := by simp [IsPrintable]

@[simp] theorem isPrintable_cons_iff : IsPrintable (c :: t) ↔ 0x20 ≤ c.toNat ∧ t.IsPrintable :=
  List.forall_mem_cons

@[simp] theorem isPrintable_append_iff :
    IsPrintable (s ++ t) ↔ s.IsPrintable ∧ t.IsPrintable :=
  List.forall_mem_append

theorem isPrintable_replicate (n : Nat) (h : 0x20 ≤ c.toNat) :
    IsPrintable (List.replicate n c) := by
  intro d hd
  rwa [List.eq_of_mem_replicate hd]

theorem IsPrintable.of_subset (h : t.IsPrintable) (hsub : ∀ c ∈ s, c ∈ t) : s.IsPrintable :=
  fun c hc => h c (hsub c hc)

/-! ### Numbers -/

theorem isPrintable_ofNat (n : Nat) : IsPrintable (ofNat n) := by
  intro c hc
  obtain ⟨hlow, -⟩ := Char.isDigit_iff_toNat.mp (isDigit_of_mem_ofNat hc)
  exact Nat.le_trans (by decide) hlow

theorem isPrintable_ofInt (n : Int) : IsPrintable (ofInt n) := by
  cases n with
  | ofNat n => exact isPrintable_ofNat n
  | negSucc n => exact isPrintable_cons_iff.mpr ⟨by decide, isPrintable_ofNat (n + 1)⟩

end Text

open Text (IsPrintable)

theorem Decimal.isPrintable_positional (d : Decimal) : IsPrintable d.positional := by
  have hdigits := Text.isPrintable_ofNat d.digits
  have hzeros (n : Nat) : IsPrintable (List.replicate n '0') :=
    Text.isPrintable_replicate n (by decide)
  rw [positional]
  dsimp only
  split
  · exact Text.isPrintable_append_iff.mpr ⟨hdigits, hzeros _⟩
  split
  · -- the point stands between the digits, in front of those that count the places
    refine Text.isPrintable_append_iff.mpr ⟨?_, Text.isPrintable_cons_iff.mpr ⟨by decide, ?_⟩⟩
    · exact hdigits.of_subset fun c hc => List.mem_of_mem_take hc
    · exact hdigits.of_subset fun c hc => List.mem_of_mem_drop hc
  · simp only [Text.isPrintable_append_iff]
    exact ⟨⟨by decide, hzeros _⟩, hdigits⟩

theorem isPrintable_quotientText (numerator : Int) (denominator : Nat) :
    IsPrintable (quotientText numerator denominator) := by
  rw [quotientText]
  split
  · decide
  · refine Text.isPrintable_append_iff.mpr ⟨?_, Decimal.isPrintable_positional _⟩
    split <;> decide

/-! ### Colours -/

/-- A colour in the notation of style sheets holds no control characters. -/
theorem Color.isPrintable_css (c : Color) : IsPrintable c.css := by
  have hchannels : IsPrintable
      (Text.joined ", " [Text.ofInt c.red, Text.ofInt c.green, Text.ofInt c.blue]) := by
    simp only [Text.joined, Text.isPrintable_append_iff]
    exact ⟨⟨Text.isPrintable_ofInt _, by decide⟩,
      ⟨Text.isPrintable_ofInt _, by decide⟩, Text.isPrintable_ofInt _⟩
  rw [css]
  split
  · simp only [Text.isPrintable_append_iff]
    exact ⟨⟨by decide, hchannels⟩, by decide⟩
  · simp only [Text.isPrintable_append_iff]
    exact ⟨⟨⟨⟨by decide, hchannels⟩, by decide⟩, isPrintable_quotientText _ _⟩, by decide⟩

theorem Beam.isPrintable_name (b : Beam) : IsPrintable b.name := by
  cases b <;> decide

theorem Beam.isPrintable_hex (b : Beam) : IsPrintable b.hex := by
  cases b <;> decide

/-! ### Words of the program -/

theorem TextProperty.isPrintable_keyword (p : TextProperty) : IsPrintable p.keyword := by
  cases p <;> decide

theorem NumberProperty.isPrintable_keyword (p : NumberProperty) : IsPrintable p.keyword := by
  cases p <;> decide

theorem Property.isPrintable_keyword (p : Property) : IsPrintable p.keyword := by
  cases p with
  | text p => exact p.isPrintable_keyword
  | number p => exact p.isPrintable_keyword

theorem Operator.isPrintable_symbol (o : Operator) : IsPrintable o.symbol := by
  cases o <;> decide

theorem ColorDirective.isPrintable_keyword (d : ColorDirective) : IsPrintable d.keyword := by
  cases d <;> decide

theorem Visibility.isPrintable_keyword (v : Visibility) : IsPrintable v.keyword := by
  cases v <;> decide

theorem Severity.isPrintable_label (s : Severity) : IsPrintable s.label := by
  cases s <;> decide

end LootFilter
