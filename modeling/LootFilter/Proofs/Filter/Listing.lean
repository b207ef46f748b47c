import LootFilter.Filter.Listing
import LootFilter.Filter.Preview
import LootFilter.Proofs.Condition.Display
import LootFilter.Proofs.Filter.Directives
import LootFilter.Proofs.Filter.FirstMatch
import LootFilter.Proofs.Json.Pretty

/-!
# What a listing tells

The blocks of a filter in JSON tell all that matters for the items: two filters with the same
listing give the same preview of every item. The listing is not a faithful image of blocks as such.
A single name and a number out of range are both written as texts, and a channel of transparency is
only shown as a fraction, in double precision. But a property decides whether its values are names
or numbers, and the preview shows a channel of transparency in no other way.

## Main definitions

* `Block.LooksLike` — blocks with the same conditions and the same appearance

## Main results

* `Condition.toJson_inj` — a condition that was read is told from its JSON value
* `Filter.forall₂_looksLike_of_json_eq` — filters with the same listing have blocks that look alike
* `Filter.preview_json_eq_of_json_blocks_eq` — the listing decides the previews
-/

namespace LootFilter

/-! ### Values that can be told from their text -/

open Json (IsPlain)

theorem Value.isPlain_toJson (v : Value) : v.toJson.IsPlain := by
  cases v with
  | text t => exact .string t
  | list ts =>
    refine .array fun j hj => ?_
    obtain ⟨t, -, rfl⟩ := List.mem_map.1 hj
    exact .string t
  | number n => exact .integer n
  | malformed digits => exact .string digits

theorem Json.isPlain_object_nil : IsPlain (.object []) :=
  .object (by simp)

theorem Json.isPlain_object_cons {key : Text} {j : Json} {fields : List (Text × Json)}
    (hj : j.IsPlain) (h : IsPlain (.object fields)) : IsPlain (.object ((key, j) :: fields)) := by
  cases h with
  | object h =>
    refine .object fun f hf => ?_
    rcases List.mem_cons.1 hf with rfl | hf
    · exact hj
    · exact h f hf

theorem Condition.isPlain_toJson (c : Condition) : c.toJson.IsPlain :=
  Json.isPlain_object_cons (.string _) <| Json.isPlain_object_cons (.string _) <|
    Json.isPlain_object_cons c.value.isPlain_toJson Json.isPlain_object_nil

theorem Style.isPlain_toJson (s : Style) : s.toJson.IsPlain := by
  have hbeam : IsPlain (.object (Json.optionalField "beam" (fun b => .string b.hex) s.beam)) := by
    cases s.beam with
    | none => exact Json.isPlain_object_nil
    | some b => exact Json.isPlain_object_cons (.string _) Json.isPlain_object_nil
  exact Json.isPlain_object_cons (.integer _) <| Json.isPlain_object_cons (.string _) <|
    Json.isPlain_object_cons (.string _) <| Json.isPlain_object_cons (.string _) hbeam

theorem Block.isPlain_toJson (b : Block) : b.toJson.IsPlain := by
  have hconditions : IsPlain (.array (b.conditions.map Condition.toJson)) := by
    refine .array fun j hj => ?_
    obtain ⟨c, -, rfl⟩ := List.mem_map.1 hj
    exact c.isPlain_toJson
  exact Json.isPlain_object_cons (.integer _) <| Json.isPlain_object_cons (.string _) <|
    Json.isPlain_object_cons hconditions <|
      Json.isPlain_object_cons b.style.isPlain_toJson Json.isPlain_object_nil

/-- Blocks are told from their listing, as far as their JSON values are. -/
theorem Listing.map_toJson_eq_of_json_eq {bs bs' : List Block}
    (h : Listing.json bs = Listing.json bs') : bs.map Block.toJson = bs'.map Block.toJson := by
  have hplain (bs : List Block) :
      IsPlain (.object [("blocks", .array (bs.map Block.toJson))]) := by
    refine Json.isPlain_object_cons (.array fun j hj => ?_) Json.isPlain_object_nil
    obtain ⟨b, -, rfl⟩ := List.mem_map.1 hj
    exact b.isPlain_toJson
  have hvalue := Json.pretty_inj (hplain bs) (hplain bs') h
  simpa using hvalue

/-! ### Conditions -/

theorem Operator.symbol_injective {o o' : Operator} (h : o.symbol = o'.symbol) : o = o' := by
  have hread := ofSymbol?_symbol o
  rw [h, ofSymbol?_symbol] at hread
  exact (Option.some.inj hread).symm

theorem Visibility.keyword_injective {v v' : Visibility} (h : v.keyword = v'.keyword) : v = v' := by
  revert h
  cases v <;> cases v' <;> decide

namespace Value

/-- A single name is a text and several are a list, so names are told from their JSON value. -/
theorem toJson_inj_of_isNaming {v v' : Value} (hv : v.IsNaming) (hv' : v'.IsNaming)
    (h : v.toJson = v'.toJson) : v = v' := by
  cases v with
  | text t =>
    cases v' with
    | text t' => rw [Json.string.inj h]
    | list ts' => exact Json.noConfusion h
    | number | malformed => exact absurd rfl hv'.ne_nil
  | list ts =>
    cases v' with
    | text t' => exact Json.noConfusion h
    | list ts' => rw [List.map_injective_iff.2 (fun _ _ => Json.string.inj) (Json.array.inj h)]
    | number | malformed => exact absurd rfl hv'.ne_nil
  | number | malformed => exact absurd rfl hv.ne_nil

/-- A number is an integer, and digits beyond its range are a text. -/
theorem ofDigits_toJson_inj {digits digits' : Text}
    (h : (ofDigits digits).toJson = (ofDigits digits').toJson) :
    ofDigits digits = ofDigits digits' := by
  rcases ofDigits_eq_number_or_malformed digits with ⟨n, hn⟩ | hn <;>
    rcases ofDigits_eq_number_or_malformed digits' with ⟨n', hn'⟩ | hn' <;>
    rw [hn, hn'] at h ⊢
  · rw [Json.integer.inj h]
  · exact Json.noConfusion h
  · exact Json.noConfusion h
  · rw [Json.string.inj h]

end Value

/-- A condition that was read is told from its JSON value: the property decides whether the value is
made of names or is a number. -/
theorem Condition.toJson_inj {c c' : Condition} (hc : c.IsReadable) (hc' : c'.IsReadable)
    (h : c.toJson = c'.toJson) : c = c' := by
  obtain ⟨hkeyword, hsymbol, hvalue⟩ : c.property.keyword = c'.property.keyword ∧
      c.operator.symbol = c'.operator.symbol ∧ c.value.toJson = c'.value.toJson := by
    simpa [toJson] using h
  have hproperty := Property.keyword_injective hkeyword
  have hoperator := Operator.symbol_injective hsymbol
  cases hc with
  | text p o hv =>
    cases hc' with
    | text p' o' hv' =>
      simp only at hproperty hoperator
      rw [hproperty, hoperator, Value.toJson_inj_of_isNaming hv hv' hvalue]
    | number p' o' => exact absurd hproperty (by simp)
  | number p o =>
    cases hc' with
    | text p' o' hv' => exact absurd hproperty (by simp)
    | number p' o' =>
      simp only at hproperty hoperator
      rw [hproperty, hoperator, Value.ofDigits_toJson_inj hvalue]

/-! ### Blocks -/

/-- Lists with the same image are related one by one, if equal images relate their members. -/
theorem forall₂_of_map_eq {α β : Type} {R : α → α → Prop} {f : α → β} {as as' : List α}
    (h : ∀ a ∈ as, ∀ a' ∈ as', f a = f a' → R a a') (heq : as.map f = as'.map f) :
    List.Forall₂ R as as' := by
  induction as generalizing as' with
  | nil =>
    rw [List.map_eq_nil_iff.1 heq.symm]
    exact .nil
  | cons a as ih =>
    cases as' with
    | nil => exact absurd heq (by simp)
    | cons a' as' =>
      obtain ⟨hhead, htail⟩ := List.cons.inj heq
      refine .cons (h a List.mem_cons_self a' List.mem_cons_self hhead) (ih ?_ htail)
      exact fun b hb b' hb' => h b (List.mem_cons_of_mem a hb) b' (List.mem_cons_of_mem a' hb')

/-- Blocks with the same header and conditions, and with styles that are shown in the same way. -/
structure Block.LooksLike (b b' : Block) : Prop where
  line : b.line = b'.line
  visibility : b.visibility = b'.visibility
  conditions : b.conditions = b'.conditions
  style : b.style.toJson = b'.style.toJson

/-- Blocks that were read look alike if their JSON values are the same. -/
theorem Block.looksLike_of_toJson_eq {b b' : Block} (hb : ∀ c ∈ b.conditions, c.IsReadable)
    (hb' : ∀ c ∈ b'.conditions, c.IsReadable) (h : b.toJson = b'.toJson) : b.LooksLike b' := by
  obtain ⟨hline, hvisibility, hconditions, hstyle⟩ :
      Json.ofNat b.line = Json.ofNat b'.line ∧ b.visibility.keyword = b'.visibility.keyword ∧
        b.conditions.map Condition.toJson = b'.conditions.map Condition.toJson ∧
        b.style.toJson = b'.style.toJson := by
    simpa [toJson] using h
  refine ⟨Int.ofNat.inj (Json.integer.inj hline), Visibility.keyword_injective hvisibility, ?_,
    hstyle⟩
  exact List.forall₂_eq_eq_eq.le _ _ <| forall₂_of_map_eq
    (fun c hc c' hc' => Condition.toJson_inj (hb c hc) (hb' c' hc')) hconditions

theorem Block.LooksLike.applies {b b' : Block} (h : b.LooksLike b') (i : Item) :
    b.applies i = b'.applies i := by
  rw [Block.applies, Block.applies, h.conditions]

namespace Filter

variable {f g : Text}

/-- The conditions of a filter are conditions that were read. -/
theorem isReadable_of_mem_conditions {b : Block} (hb : b ∈ blocks f) :
    ∀ c ∈ b.conditions, c.IsReadable := by
  intro c hc
  rw [conditions_eq hb] at hc
  obtain ⟨raw, -, hraw⟩ := List.mem_filterMap.1 hc
  rw [Line.condition?_eq] at hraw
  exact .of_ofLine? hraw

/-- Filters with the same listing have blocks that look alike, one by one. -/
theorem forall₂_looksLike_of_json_eq (h : Listing.json (blocks f) = Listing.json (blocks g)) :
    List.Forall₂ Block.LooksLike (blocks f) (blocks g) :=
  forall₂_of_map_eq
    (fun _ hb _ hb' => Block.looksLike_of_toJson_eq (isReadable_of_mem_conditions hb)
      (isReadable_of_mem_conditions hb'))
    (Listing.map_toJson_eq_of_json_eq h)

/-- Blocks that look alike give verdicts that look alike. -/
theorem verdictOf_of_looksLike {bs bs' : List Block} (h : List.Forall₂ Block.LooksLike bs bs')
    (i : Item) :
    (verdictOf bs i).isHidden = (verdictOf bs' i).isHidden ∧
      (verdictOf bs i).line = (verdictOf bs' i).line ∧
      (verdictOf bs i).style.toJson = (verdictOf bs' i).style.toJson := by
  unfold verdictOf
  split
  · induction h with
    | nil => exact ⟨rfl, rfl, rfl⟩
    | @cons b b' _ _ hb _ ih =>
      rw [firstMatch?, firstMatch?, List.find?_cons, List.find?_cons, hb.applies i]
      cases b'.applies i with
      | true =>
        exact ⟨congrArg (· == Visibility.hidden) hb.visibility, congrArg some hb.line, hb.style⟩
      | false => exact ih
  · exact ⟨rfl, rfl, rfl⟩

/-- **The listing decides the previews.** If the blocks of two filters have the same listing, then
the previews of every item are the same, and so are the verdicts as far as they are shown: whether
the item is hidden, by which line, and in which style. -/
theorem preview_json_eq_of_json_blocks_eq
    (h : Listing.json (blocks f) = Listing.json (blocks g)) (i : Item) :
    (preview f i).json = (preview g i).json ∧
      (verdict f i).isHidden = (verdict g i).isHidden ∧
      (verdict f i).line = (verdict g i).line ∧
      (verdict f i).style.toJson = (verdict g i).style.toJson := by
  obtain ⟨hhidden, hline, hstyle⟩ := verdictOf_of_looksLike (forall₂_looksLike_of_json_eq h) i
  rw [← verdict_eq, ← verdict_eq] at hhidden hline hstyle
  have hverdict : (verdict f i).toJson = (verdict g i).toJson := by
    rw [Verdict.toJson, Verdict.toJson, hhidden, hline, hstyle]
  refine ⟨?_, hhidden, hline, hstyle⟩
  rw [Preview.json, Preview.json, preview, preview, hverdict]

/-- A block on rings in a colour whose transparency is beyond what a double can tell. -/
def faintRings (alpha : Text) : Text :=
  "Show\n\tClass \"Rings\"\n\tQuality > 99999999999999999999\n\tSetTextColor 1 2 3 " ++ alpha

/-- Two alphas are read apart and listed alike, so the rings are previewed alike. -/
theorem preview_json_eq_of_json_blocks_eq_faintRings :
    blocks (faintRings "9007199254740992") ≠ blocks (faintRings "9007199254740993") ∧
      Listing.json (blocks (faintRings "9007199254740992")) =
        Listing.json (blocks (faintRings "9007199254740993")) ∧
      ∀ i, (preview (faintRings "9007199254740992") i).json =
        (preview (faintRings "9007199254740993") i).json := by
  have hlisting : Listing.json (blocks (faintRings "9007199254740992")) =
      Listing.json (blocks (faintRings "9007199254740993")) := by decide +kernel
  exact ⟨by decide, hlisting, fun i => (preview_json_eq_of_json_blocks_eq hlisting i).1⟩

end Filter

end LootFilter
