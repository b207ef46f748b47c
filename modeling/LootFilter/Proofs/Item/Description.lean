import LootFilter.Filter.Preview
import LootFilter.Program.Run
import LootFilter.Proofs.Json.Reading

/-!
# Items read back from their descriptions

The description of an item holds all that is known of it. It is written with a field for each known
property, and reading it gives back the item, whatever characters its texts are made of and whatever
numbers it has. The reader goes from field to field; what it has read so far is the item with the
properties of these fields, and with no others.

So a run that is told to take an item from a file, and finds a description there, starts with the
described item. A property that the options give takes the place of the described one, each property
for itself.

## Main definitions

* `Item.only` — an item of which only some properties are known
* `Item.described` — the properties in the description of an item, with their values

## Main results

* `Item.readFields_field` — one field is read
* `Item.readFields_body` — all fields are read
* `Item.read_of_layout` — an item is read back from its description
* `Surroundings.item_of_description` — the item of a run that is given a description
-/

namespace LootFilter

theorem Property.nodup_inDescription : inDescription.Nodup := by decide

namespace Item

open Json (Layout IsSpace EndsNumber)

variable {f i : Item} {p : Property} {j : Json} {given ps : List Property} {l : Layout}
  {gap r : Text} {fuel : Nat}

/-! ### What a description tells -/

/-- The item with some of its properties; the others are unknown. -/
def only (f : Item) (ps : List Property) : Item where
  baseType := if .text .baseType ∈ ps then f.baseType else []
  itemClass := if .text .itemClass ∈ ps then f.itemClass else none
  rarity := if .text .rarity ∈ ps then f.rarity else none
  numbers q := if .number q ∈ ps then f.numbers q else none

theorem only_nil (f : Item) : f.only [] = {} := by
  apply ext_numbers <;> simp [only]

/-- Nothing else is known of an item than what is described. -/
theorem only_eq_self (h : ∀ p j, f.described? p = some j → p ∈ ps) : f.only ps = f := by
  have hunknown {q : Property} (hq : q ∉ ps) : f.described? q = none := by
    cases hj : f.described? q with
    | none => rfl
    | some j => exact absurd (h q j hj) hq
  apply ext_numbers
  · exact if_pos (h (.text .baseType) _ rfl)
  · exact ite_eq_left_iff.mpr fun hq => (Option.map_eq_none_iff.mp (hunknown hq)).symm
  · exact ite_eq_left_iff.mpr fun hq => (Option.map_eq_none_iff.mp (hunknown hq)).symm
  · intro q
    exact ite_eq_left_iff.mpr fun hq => (Option.map_eq_none_iff.mp (hunknown hq)).symm

/-- Taking a described value over makes one more property known. -/
theorem describe?_only (h : f.described? p = some j) (ps : List Property) :
    (f.only ps).describe? p j = some (f.only (p :: ps)) := by
  rcases p with p | q
  · cases p with
    | baseType =>
      obtain rfl := Option.some.inj h
      refine congrArg some (ext_numbers ?_ ?_ ?_ ?_) <;> simp [only]
    | itemClass =>
      obtain ⟨t, ht, rfl⟩ := Option.map_eq_some_iff.mp h
      refine congrArg some (ext_numbers ?_ ?_ ?_ ?_) <;> simp [only, ht]
    | rarity =>
      obtain ⟨t, ht, rfl⟩ := Option.map_eq_some_iff.mp h
      refine congrArg some (ext_numbers ?_ ?_ ?_ ?_) <;> simp [only, ht]
  · obtain ⟨n, hn, rfl⟩ := Option.map_eq_some_iff.mp h
    have hrange : (0 : Int) ≤ n.toNat ∧ (n.toNat : Int) < UInt32.size :=
      ⟨Int.natCast_nonneg _, Int.ofNat_lt.mpr n.toNat_lt⟩
    -- the number is kept in a word, so it is in range
    rw [Json.ofNat, describe?, if_pos hrange]
    refine congrArg some (ext_numbers ?_ ?_ ?_ ?_)
    · simp [only, withNumber]
    · simp [only, withNumber]
    · simp [only, withNumber]
    · intro q'
      by_cases hq : q' = q
      · subst hq
        simp [only, hn]
      · simp [only, withNumber_numbers_of_ne _ hq, hq]

/-- What is described are texts, and numbers that a double can hold. -/
theorem isLeaf_of_described? (h : f.described? p = some j) : j.IsLeaf := by
  rcases p with p | q
  · cases p with
    | baseType =>
      obtain rfl := Option.some.inj h
      exact .string _
    | itemClass | rarity =>
      obtain ⟨t, -, rfl⟩ := Option.map_eq_some_iff.mp h
      exact .string t
  · obtain ⟨n, -, rfl⟩ := Option.map_eq_some_iff.mp h
    exact .ofNat (Nat.lt_trans n.toNat_lt (by decide))

/-- The properties in the description of an item, with their values. -/
def described (f : Item) : List (Property × Json) :=
  Property.inDescription.filterMap fun p => (f.described? p).map fun j => (p, j)

theorem mem_described_iff : (p, j) ∈ f.described ↔ f.described? p = some j := by
  simp [described, Property.mem_inDescription]

theorem described_ne_nil (f : Item) : f.described ≠ [] :=
  List.ne_nil_of_mem (a := (.text .baseType, .string f.baseType)) (mem_described_iff.mpr rfl)

/-- No property is described twice. -/
theorem nodup_described (f : Item) : (f.described.map Prod.fst).Nodup := by
  have hfilter : f.described.map Prod.fst =
      Property.inDescription.filter fun p => (f.described? p).isSome := by
    rw [described, List.map_filterMap, ← List.filterMap_eq_filter]
    congr 1
    funext p
    cases h : f.described? p <;> simp [Option.guard, h]
  rw [hfilter]
  exact Property.nodup_inDescription.filter _

/-- A described property under its key. -/
def keyed (d : Property × Json) : Text × Json := (d.1.key, d.2)

theorem toJson_eq (f : Item) : f.toJson = .object (f.described.map keyed) := by
  rw [toJson, described, List.map_filterMap]
  simp [keyed, Function.comp_def]

/-! ### What is read -/

/-- The value of a property is read behind white space, up to where a number must be over. -/
theorem readValue_append (hgap : IsSpace gap) (hj : j.IsLeaf) (hr : EndsNumber r)
    (hi : i.describe? p j = some f) : i.readValue p (gap ++ j.compact ++ r) = .ok (f, r) := by
  obtain ⟨c, t, hc, hspace, hbracket, hbrace⟩ := hj.exists_lead
  have hskip : Json.skipSpace (gap ++ j.compact ++ r) = j.compact ++ r := by
    rw [List.append_assoc, Json.skipSpace_append hgap, hc, List.cons_append,
      Json.skipSpace_cons hspace]
  have hscalar := hj.scalar_append hr
  rw [readValue, hskip]
  split
  -- a text or a number begins no list and no object
  · next heq =>
    rw [hc] at heq
    exact absurd (List.cons.inj heq).1 hbracket
  · next heq =>
    rw [hc] at heq
    exact absurd (List.cons.inj heq).1 hbrace
  · rw [hscalar]
    simp only [hi]

/-- Reading a field: its property becomes known, and what follows decides how to go on. -/
theorem readFields_field (hp : p ∉ given) (h : f.described? p = some j) (hr : EndsNumber r) :
    readFields (fuel + 1) (f.only given) given (l.field (p.key, j) ++ r) =
      match Json.skipSpace r with
      | '}' :: rest => .ok (f.only (p :: given), rest)
      | ',' :: rest => readFields fuel (f.only (p :: given)) (p :: given) rest
      | rest => .error (Json.faultAt rest) := by
  have hskip : Json.skipSpace (l.field (p.key, j) ++ r) =
      '"' :: (Json.escaped p.key ++ '"' :: (':' :: (l.beforeValue ++ j.compact ++ r))) := by
    rw [Layout.field, List.append_assoc, List.append_assoc, List.append_assoc,
      Json.skipSpace_append l.isSpace_beforeKey, Json.quoted, List.cons_append, List.cons_append,
      Json.skipSpace_cons (by decide)]
    simp
  have hvalue : (f.only given).readField (some p) (':' :: (l.beforeValue ++ j.compact ++ r)) =
      .ok (f.only (p :: given), r) :=
    readValue_append l.isSpace_beforeValue (isLeaf_of_described? h) hr (describe?_only h given)
  -- the key is read back as the property, which has not been given before
  have hgiven : (some p).any given.contains = false := by
    simpa using hp
  rw [readFields, hskip]
  simp only [Json.stringFrom_escaped, bind, Except.bind, List.reverse_nil, List.nil_append,
    Property.ofKey?_key, hgiven, hvalue]
  rfl

/-- White space in front of fields is passed over. -/
theorem readFields_append (hgap : IsSpace gap) (fuel : Nat) (i : Item) (given : List Property)
    (t : Text) : readFields fuel i given (gap ++ t) = readFields fuel i given t := by
  cases fuel with
  | zero => rfl
  | succ fuel => rw [readFields, readFields, Json.skipSpace_append hgap]

/-- Reading fields up to the closing brace: their properties become known. -/
theorem readFields_body (l : Layout) (r : Text) {ds : List (Property × Json)} (hne : ds ≠ [])
    (hds : ∀ d ∈ ds, f.described? d.1 = some d.2)
    (hnodup : ((ds.map Prod.fst).reverse ++ given).Nodup) (hfuel : ds.length ≤ fuel) :
    readFields fuel (f.only given) given (l.body (ds.map keyed) ++ r) =
      .ok (f.only ((ds.map Prod.fst).reverse ++ given), r) := by
  -- a field that has been read joins the given ones, in front of which the others are still to come
  induction ds generalizing given fuel with
  | nil => exact absurd rfl hne
  | cons d ds ih =>
    obtain ⟨p, j⟩ := d
    obtain ⟨fuel, rfl⟩ : ∃ n, fuel = n + 1 := Nat.exists_eq_add_one.mpr (by simp at hfuel; omega)
    have hreverse : (((p, j) :: ds).map Prod.fst).reverse ++ given =
        (ds.map Prod.fst).reverse ++ p :: given := by
      simp
    rw [hreverse] at hnodup ⊢
    -- no property comes twice, so this one is not among those in front of it
    have hp : p ∉ given := (List.nodup_cons.mp (List.nodup_append.mp hnodup).2.1).1
    have hdescribed : f.described? p = some j := hds (p, j) List.mem_cons_self
    cases ds with
    | nil =>
      have hends : EndsNumber (l.beforeEnd ++ ('}' :: r)) :=
        Json.endsNumber_append l.isSpace_beforeEnd (Json.endsNumber_cons (by simp) r)
      have hbody : l.body ([(p, j)].map keyed) ++ r =
          l.field (p.key, j) ++ (l.beforeEnd ++ '}' :: r) := by
        simp [Layout.body_singleton, keyed]
      rw [hbody, readFields_field hp hdescribed hends, Json.skipSpace_append l.isSpace_beforeEnd,
        Json.skipSpace_cons (by decide)]
      rfl
    | cons e ds =>
      have hends : EndsNumber (',' :: (l.body ((e :: ds).map keyed) ++ r)) :=
        Json.endsNumber_cons (by simp) _
      have hbody : l.body (((p, j) :: e :: ds).map keyed) ++ r =
          l.field (p.key, j) ++ ',' :: (l.body ((e :: ds).map keyed) ++ r) := by
        simp [Layout.body_cons_cons, keyed]
      rw [hbody, readFields_field hp hdescribed hends, Json.skipSpace_cons (by decide)]
      exact ih (List.cons_ne_nil e ds) (fun d hd => hds d (List.mem_cons_of_mem _ hd)) hnodup
        (Nat.le_of_succ_le_succ hfuel)

/-- An item is read back from its description, whichever way this is laid out. -/
theorem read_of_layout (f : Item) (l : Layout) {before after : Text} (hbefore : IsSpace before)
    (hafter : IsSpace after) :
    read (before ++ '{' :: (l.body (f.described.map keyed) ++ after)) = .ok f := by
  -- the base type is always described, so there is a first field, and the fuel is enough
  obtain ⟨d, ds, hd⟩ := List.exists_cons_of_ne_nil f.described_ne_nil
  obtain ⟨t, hbody, hlength⟩ := l.exists_body_eq (keyed d) (ds.map keyed)
  rw [← List.map_cons, ← hd] at hbody
  have hskip : Json.skipSpace (l.body (f.described.map keyed) ++ after) = '"' :: (t ++ after) := by
    rw [hbody, List.append_assoc, Json.skipSpace_append l.isSpace_beforeKey, List.cons_append,
      Json.skipSpace_cons (by decide)]
  have hfuel : f.described.length ≤ Json.fuelFor ('"' :: (t ++ after)) := by
    rw [hd, Json.fuelFor]
    simp only [List.length_cons, List.length_map, List.length_append] at hlength ⊢
    omega
  have hfields : readFields (Json.fuelFor ('"' :: (t ++ after))) {} [] ('"' :: (t ++ after)) =
      .ok (f, after) := by
    -- with no fields read, nothing is known of the item yet
    have hnodup : (f.described.map Prod.fst).reverse.Nodup :=
      (List.reverse_perm _).nodup_iff.mpr f.nodup_described
    rw [← List.append_nil (f.described.map Prod.fst).reverse] at hnodup
    have hrun := readFields_body l after f.described_ne_nil
      (fun d hd => mem_described_iff.mp hd) hnodup hfuel
    rw [hbody, List.append_assoc, readFields_append l.isSpace_beforeKey, only_nil,
      List.append_nil, only_eq_self] at hrun
    · exact hrun
    · intro p j hj
      exact List.mem_reverse.mpr (List.mem_map_of_mem (mem_described_iff.mpr hj))
  rw [read, readDescription, Json.skipSpace_append hbefore, Json.skipSpace_cons (by decide)]
  simp only [hskip]
  change readFields (Json.fuelFor ('"' :: (t ++ after))) {} [] ('"' :: (t ++ after)) >>=
    Json.atEnd = .ok f
  rw [hfields]
  simp [bind, Except.bind, Json.atEnd, Json.skipSpace_of_isSpace hafter]

/-- The description of an item on a single line. -/
theorem compact_toJson (f : Item) :
    f.toJson.compact = '{' :: Layout.singleLine.body (f.described.map keyed) := by
  rw [toJson_eq, Json.compact_object]

example : (ofBaseType "\"Bow\"").toJson.compact = "\x7b\"baseType\":\"\\\"Bow\\\"\"\x7d" := by
  decide

/-- The description of an item on several lines, at any level of indentation. -/
theorem prettyAt_toJson (f : Item) (level : Nat) :
    Json.prettyAt level f.toJson =
      '{' :: (Layout.severalLines level).body (f.described.map keyed) := by
  rw [toJson_eq]
  apply Json.prettyAt_object_of_leaves
  · simpa using f.described_ne_nil
  · intro d hd
    obtain ⟨d, hmem, rfl⟩ := List.mem_map.mp hd
    exact isLeaf_of_described? (mem_described_iff.mp hmem)

/-- A text with the description of an item: the JSON of the item, on a single line or on several
lines that are indented, with white space around it. -/
def IsDescribedBy (f : Item) (t : Text) : Prop :=
  ∃ before after, IsSpace before ∧ IsSpace after ∧
    (t = before ++ f.toJson.compact ++ after ∨
      ∃ level, t = before ++ Json.prettyAt level f.toJson ++ after)

/-- An item is read back from its description. -/
theorem IsDescribedBy.read {t : Text} (h : f.IsDescribedBy t) : read t = .ok f := by
  obtain ⟨before, after, hbefore, hafter, rfl | ⟨level, rfl⟩⟩ := h
  · rw [compact_toJson, List.append_assoc, List.cons_append]
    exact read_of_layout f _ hbefore hafter
  · rw [prettyAt_toJson, List.append_assoc, List.cons_append]
    exact read_of_layout f _ hbefore hafter

end Item

/-- The JSON of a preview holds the description of its item. -/
theorem Preview.json_eq (p : Preview) : p.json =
    "\x7b\n  \"item\": " ++ Json.prettyAt 1 p.item.toJson ++ ",\n  \"result\": " ++
      Json.prettyAt 1 p.verdict.toJson ++ "\n\x7d" := by
  rw [json, Json.pretty, Json.prettyAt_object]
  simp [Json.framed, Json.indented, Json.braces, Json.field, Json.lineBreak, Text.joined,
    Json.quoted, Json.escaped, Json.escapedChar]

namespace Surroundings

variable {s : Surroundings} {o : ItemOptions} {f : Item} {path text : Text}

/-- The item of a run that is given a description: what the options give, and else what is
described. -/
theorem item_eq_applyTo (hfile : o.file = some path) (hread : s.readFile path = .ok text)
    (h : f.IsDescribedBy text) : s.item o = .ok (o.applyTo f) := by
  simp only [item, hfile, hread, h.read, bind, Except.bind]
  rfl

/-- **Descriptions of items.** A run that is told to take its item from a file, and finds there the
description of an item, starts with an item whose properties are each what the options give, or else
what they are for the described item. Without options it is the described item itself. The JSON of a
preview holds the description of its item, indented by one level. -/
theorem item_of_description (s : Surroundings) (o : ItemOptions) (f : Item) (path text : Text)
    (hfile : o.file = some path) (hread : s.readFile path = .ok text)
    (h : f.IsDescribedBy text) :
    (∃ i, s.item o = .ok i ∧
      i.baseType = (o.texts .baseType).getD f.baseType ∧
      i.itemClass = (o.texts .itemClass).or f.itemClass ∧
      i.rarity = (o.texts .rarity).or f.rarity ∧
      ∀ p, i.numbers p = (o.numbers p).or (f.numbers p)) ∧
    ((∀ p, o.texts p = none) → (∀ p, o.numbers p = none) → s.item o = .ok f) ∧
    ∀ v, (Preview.mk f v).json =
      "\x7b\n  \"item\": " ++ Json.prettyAt 1 f.toJson ++ ",\n  \"result\": " ++
        Json.prettyAt 1 v.toJson ++ "\n\x7d" := by
  have hitem := item_eq_applyTo hfile hread h
  refine ⟨⟨_, hitem, rfl, rfl, rfl, fun p => rfl⟩, ?_, fun v => Preview.json_eq ⟨f, v⟩⟩
  intro htexts hnumbers
  rw [hitem]
  refine congrArg Except.ok (Item.ext_numbers ?_ ?_ ?_ ?_)
  · simp [ItemOptions.applyTo, htexts]
  · simp [ItemOptions.applyTo, htexts]
  · simp [ItemOptions.applyTo, htexts]
  · intro p
    simp [ItemOptions.applyTo, hnumbers]

/-- A rare bow whose name holds a quote, a backslash, a control character and a character beyond the
basic plane, with the largest number. -/
def strangeBow : Item where
  baseType := "\"Bow\" \\ \x01 😀"
  rarity := some "Rare"
  numbers p := if p = .itemLevel then some 4294967295 else none

/-- Options that take the item from a file, and its rarity from the command line. -/
def uniqueOption : ItemOptions where
  file := some "bow.json"
  texts p := if p = .rarity then some "Unique" else none

theorem item_of_description_strangeBow :
    let description := Json.prettyAt 1 strangeBow.toJson ++ ['\n']
    let s : Surroundings := { files := FileTree.insert {} ["bow.json"] (.file (some description)) }
    uniqueOption.file = some "bow.json" ∧ s.readFile "bow.json" = .ok description ∧
      strangeBow.IsDescribedBy description ∧
      ∃ i, s.item uniqueOption = .ok i ∧ i.baseType = strangeBow.baseType ∧ i.itemClass = none ∧
        i.rarity = some "Unique" ∧ i.numbers .itemLevel = some 4294967295 := by
  intro description s
  have hread : s.readFile "bow.json" = .ok description := rfl
  have hdescribed : strangeBow.IsDescribedBy description :=
    ⟨[], ['\n'], by decide, by decide, Or.inr ⟨1, rfl⟩⟩
  obtain ⟨⟨i, hitem, hbase, hclass, hrarity, hnumbers⟩, -, -⟩ :=
    item_of_description s uniqueOption strangeBow "bow.json" description rfl hread hdescribed
  exact ⟨rfl, hread, hdescribed, i, hitem, hbase, hclass, hrarity, hnumbers .itemLevel⟩

end Surroundings

end LootFilter
