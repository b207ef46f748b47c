import LootFilter.Proofs.Toml.Quoted
import LootFilter.Toml.Reader

/-!
# Documents line by line

What reading makes of the simplest lines of a document: line feeds, headers with a bare name, and
keys with a value behind ` = `. Each line is read without a look at what follows it, so a document
is followed from its first line to its last one. A line costs at least one character, which is why
any fuel beyond the number of characters is enough.

## Main definitions

* `Toml.ReadsTo` — the draft that the lines of a text lead to
* `Toml.IsBare` — names that may stand without quotes
* `Toml.Writes` — the spelling of a value up to the end of its line

## Main results

* `Toml.ReadsTo.header`, `Toml.ReadsTo.field`, `Toml.ReadsTo.sectionField` — the lines
* `Toml.ReadsTo.read?` — the document that has been read
-/

namespace LootFilter.Toml

open Text (ne_of_holds)

variable {d d' : Draft} {t w name key rest : Text} {v : Toml} {document fields : Fields}

/-- From a draft, the lines of a text lead to another draft, with any fuel that is enough. -/
def ReadsTo (d : Draft) (t : Text) (d' : Draft) : Prop :=
  ∀ fuel, t.length < fuel → lines? fuel d t = some d'

namespace ReadsTo

theorem nil (d : Draft) : ReadsTo d [] d := by
  intro fuel hfuel
  obtain ⟨fuel, rfl⟩ := Nat.exists_eq_add_one_of_ne_zero (by omega : fuel ≠ 0)
  rfl

/-- A line without a gap in front leads on to the draft of the lines behind it. -/
theorem of_line? {middle : Draft} {c : Char} (hgap : isGap c = false)
    (hline : line? d (c :: t) = some (middle, rest)) (hlt : rest.length ≤ t.length)
    (h : ReadsTo middle rest d') : ReadsTo d (c :: t) d' := by
  intro fuel hfuel
  obtain ⟨fuel, rfl⟩ := Nat.exists_eq_add_one_of_ne_zero (by omega : fuel ≠ 0)
  have hskip : skipGaps (c :: t) = c :: t := List.dropWhile_cons_of_neg (by simp [hgap])
  have hrest : rest.length < fuel := by
    rw [List.length_cons] at hfuel
    omega
  simp [lines?, hskip, hline, h fuel hrest]

theorem lineFeed (h : ReadsTo d rest d') : ReadsTo d ('\n' :: rest) d' :=
  of_line? rfl rfl (Nat.le_refl _) h

/-- The document that the lines of a whole text lead to. -/
theorem read? (hmark : t.head? ≠ some '\uFEFF') (h : ReadsTo {} t d') :
    Toml.read? t = some d'.document := by
  have hdrop : dropByteOrderMark t = t := by
    unfold dropByteOrderMark
    split
    · exact absurd rfl hmark
    · rfl
  simp [Toml.read?, hdrop, h (t.length + 1) (Nat.lt_succ_self _)]

end ReadsTo

/-! ### Keys -/

/-- A name that may stand without quotes. -/
structure IsBare (name : Text) : Prop where
  ne_nil : name ≠ []
  all_isKeyChar : name.all isKeyChar = true

instance (name : Text) : Decidable (IsBare name) :=
  decidable_of_iff (name ≠ [] ∧ name.all isKeyChar = true)
    ⟨fun h => ⟨h.1, h.2⟩, fun h => ⟨h.ne_nil, h.all_isKeyChar⟩⟩

theorem isGap_of_isKeyChar {c : Char} (h : isKeyChar c = true) : isGap c = false := by
  have hspace : c ≠ ' ' := ne_of_holds h rfl
  have htab : c ≠ '\t' := ne_of_holds h rfl
  simp [isGap, hspace, htab]

theorem IsBare.exists_cons (h : IsBare name) :
    ∃ c name', name = c :: name' ∧ isKeyChar c = true := by
  obtain ⟨c, name', rfl⟩ := List.exists_cons_of_ne_nil h.ne_nil
  exact ⟨c, name', rfl, List.all_eq_true.mp h.all_isKeyChar c List.mem_cons_self⟩

/-- A bare name is a part of a key up to the first character that cannot belong to it. -/
theorem keyPart?_append (h : IsBare name) {c : Char} (hc : isKeyChar c = false) :
    keyPart? (name ++ c :: rest) = some (name, skipGaps (c :: rest)) := by
  have hall : ∀ x ∈ name, isKeyChar x = true := List.all_eq_true.mp h.all_isKeyChar
  have hskip : skipGaps (name ++ c :: rest) = name ++ c :: rest := by
    obtain ⟨x, name', rfl, hx⟩ := h.exists_cons
    exact List.dropWhile_cons_of_neg (by simp [isGap_of_isKeyChar hx])
  have htake : (name ++ c :: rest).takeWhile isKeyChar = name := by
    rw [List.takeWhile_append_of_pos hall, List.takeWhile_cons_of_neg (by simp [hc]),
      List.append_nil]
  have hdrop : (name ++ c :: rest).dropWhile isKeyChar = c :: rest := by
    rw [List.dropWhile_append_of_pos hall, List.dropWhile_cons_of_neg (by simp [hc])]
  simp [keyPart?, hskip, htake, hdrop, h.ne_nil]

/-- A bare name is a whole key if no dot follows. -/
theorem key?_append (h : IsBare name) {c : Char} (hc : isKeyChar c = false)
    (hdot : (skipGaps (c :: rest)).head? ≠ some '.') :
    key? (name ++ c :: rest) = some ([], name, skipGaps (c :: rest)) := by
  -- without a dot the first part is the last one, so one unit of fuel is enough
  have hparts : keyParts? nestingLimit (name ++ c :: rest) =
      some ([name], skipGaps (c :: rest)) := by
    unfold nestingLimit
    rw [keyParts?, keyPart?_append h hc]
    simp only [Option.bind_eq_bind, Option.bind_some]
    split
    · next heq => exact absurd (by rw [heq]; rfl) hdot
    · rfl
  simp [key?, hparts]

/-! ### Headers -/

theorem lookup_append_of_eq_none {m : Fields} (h : fields.lookup key = none) :
    (fields ++ m).lookup key = m.lookup key := by
  rw [List.lookup_append, h, Option.none_or]

theorem openTable_of_lookup_eq_none (h : document.lookup name = none) :
    openTable [] name document = some (document ++ [(name, .table .explicit [])]) := by
  simp [openTable, modifyAt, h]

/-- A header with a bare name opens a table at the end of the document. -/
theorem ReadsTo.header (hbare : IsBare name) (hname : document.lookup name = none)
    {table : List Text}
    (h : ReadsTo ⟨document ++ [(name, .table .explicit [])], [name]⟩ rest d') :
    ReadsTo ⟨document, table⟩ ('[' :: (name ++ ']' :: '\n' :: rest)) d' := by
  have hkey : key? (name ++ ']' :: '\n' :: rest) = some ([], name, ']' :: '\n' :: rest) :=
    key?_append hbare rfl (by simp [skipGaps, isGap])
  have hheader : header? [']'] (name ++ ']' :: '\n' :: rest) = some ([], name, rest) := by
    rw [header?, hkey]
    rfl
  have hline : line? ⟨document, table⟩ ('[' :: (name ++ ']' :: '\n' :: rest)) =
      some (⟨document ++ [(name, .table .explicit [])], [name]⟩, rest) := by
    -- a second bracket would open one of several tables with a header in common
    obtain ⟨c, name', rfl, hc⟩ := hbare.exists_cons
    have hbracket : c ≠ '[' := ne_of_holds hc rfl
    rw [List.cons_append] at hheader ⊢
    rw [line?, hheader]
    · simp [openTable_of_lookup_eq_none hname]
    · intro _ heq
      exact hbracket (List.cons.inj heq).1
  refine of_line? rfl hline ?_ h
  simp only [List.length_append, List.length_cons]
  omega

/-! ### Keys with values -/

/-- The spelling of a value, which is read up to the end of its line. -/
structure Writes (w : Text) (v : Toml) : Prop where
  value_eq : ∀ rest, value nestingLimit (w ++ '\n' :: rest) = some (v, '\n' :: rest)
  not_isGap : ∀ c ∈ w.head?, isGap c = false

theorem pair?_append (hbare : IsBare key) (hw : Writes w v) (rest : Text) :
    pair? (value nestingLimit) (key ++ ' ' :: '=' :: ' ' :: (w ++ '\n' :: rest)) =
      some (([], key, v), '\n' :: rest) := by
  have hkey : key? (key ++ ' ' :: '=' :: ' ' :: (w ++ '\n' :: rest)) =
      some ([], key, '=' :: ' ' :: (w ++ '\n' :: rest)) :=
    key?_append hbare rfl (by simp [skipGaps, isGap])
  have hskip : skipGaps (' ' :: (w ++ '\n' :: rest)) = w ++ '\n' :: rest := by
    have hspace : skipGaps (' ' :: (w ++ '\n' :: rest)) = skipGaps (w ++ '\n' :: rest) := rfl
    rw [hspace]
    cases w with
    | nil => rfl
    | cons c w => exact List.dropWhile_cons_of_neg (by simp [hw.not_isGap c rfl])
  simp only [pair?, hkey, Option.bind_eq_bind, Option.bind_some, hskip, hw.value_eq rest]
  rfl

/-- A line with a key goes to the table that was opened last. -/
theorem ReadsTo.field {table : List Text} {document' : Fields} (hbare : IsBare key)
    (hw : Writes w v) (hdefine : defineIn table [] key v document = some document')
    (h : ReadsTo ⟨document', table⟩ rest d') :
    ReadsTo ⟨document, table⟩ (key ++ ' ' :: '=' :: ' ' :: (w ++ '\n' :: rest)) d' := by
  have hpair := pair?_append hbare hw rest
  obtain ⟨c, key', rfl, hc⟩ := hbare.exists_cons
  rw [List.cons_append] at hpair ⊢
  have hline : line? ⟨document, table⟩
      (c :: (key' ++ ' ' :: '=' :: ' ' :: (w ++ '\n' :: rest))) =
        some (⟨document', table⟩, rest) := by
    -- a key begins with none of the characters that other lines begin with
    have hne : c ≠ '#' ∧ c ≠ '[' ∧ c ≠ '\n' ∧ c ≠ '\r' :=
      ⟨ne_of_holds hc rfl, ne_of_holds hc rfl, ne_of_holds hc rfl, ne_of_holds hc rfl⟩
    have hend : afterLineEnd? (c :: (key' ++ ' ' :: '=' :: ' ' :: (w ++ '\n' :: rest))) = none := by
      simp [afterLineEnd?, hne]
    have hover : lineEnd? ('\n' :: rest) = some rest := rfl
    rw [line?]
    · simp [hend, hpair, hover, hdefine]
    all_goals simp [hne]
  refine of_line? (isGap_of_isKeyChar hc) hline ?_ h
  simp only [List.length_append, List.length_cons]
  omega

theorem define_of_lookup_eq_none (h : fields.lookup key = none) :
    define [] key v fields = some (fields ++ [(key, v)]) := by
  simp [define, modifyAt, h]

theorem Fields.set_append (hname : document.lookup name = none) (old new : Toml) :
    Fields.set name new (document ++ [(name, old)]) = document ++ [(name, new)] := by
  induction document with
  | nil => simp [Fields.set]
  | cons entry document ih =>
    obtain ⟨k, u⟩ := entry
    have hne : (name == k) = false := by
      cases hk : name == k with
      | false => rfl
      | true => simp [List.lookup_cons, hk] at hname
    have htail : document.lookup name = none := by
      simpa [List.lookup_cons, hne] using hname
    have hk : k ≠ name := by
      rintro rfl
      simp at hne
    simp [Fields.set, hk, ih htail]

/-- A key goes to the end of the last table of a document, if that is where it belongs. -/
theorem defineIn_append (hname : document.lookup name = none) (hkey : fields.lookup key = none) :
    defineIn [name] [] key v (document ++ [(name, .table .explicit fields)]) =
      some (document ++ [(name, .table .explicit (fields ++ [(key, v)]))]) := by
  have hlookup : (document ++ [(name, Toml.table .explicit fields)]).lookup name =
      some (.table .explicit fields) := by
    rw [lookup_append_of_eq_none hname, List.lookup_cons_self]
  simp [defineIn, modifyAt, hlookup, define_of_lookup_eq_none hkey, Fields.set_append hname]

/-- A line with a new key in the last table of a document. -/
theorem ReadsTo.sectionField (hbare : IsBare key) (hw : Writes w v)
    (hname : document.lookup name = none) (hkey : fields.lookup key = none)
    (h : ReadsTo ⟨document ++ [(name, .table .explicit (fields ++ [(key, v)]))], [name]⟩ rest d') :
    ReadsTo ⟨document ++ [(name, .table .explicit fields)], [name]⟩
      (key ++ ' ' :: '=' :: ' ' :: (w ++ '\n' :: rest)) d' :=
  h.field hbare hw (defineIn_append hname hkey)

/-! ### Values -/

theorem value_of_isWordChar {c : Char} (h : isWordChar c = true) :
    value nestingLimit (c :: t) = word? (c :: t) := by
  have hne : c ≠ '[' ∧ c ≠ '{' ∧ c ≠ '"' ∧ c ≠ '\'' :=
    ⟨ne_of_holds h rfl, ne_of_holds h rfl, ne_of_holds h rfl, ne_of_holds h rfl⟩
  unfold nestingLimit
  rw [value] <;> simp [hne]

/-- A word that is no date is read as the value that it writes. -/
theorem writes_word (hne : w ≠ []) (hall : w.all isWordChar = true) (hv : ofWord? w = some v)
    (hdate : afterDate? w ≠ some []) : Writes w v := by
  have hword : ∀ x ∈ w, isWordChar x = true := List.all_eq_true.mp hall
  obtain ⟨c, w', rfl⟩ := List.exists_cons_of_ne_nil hne
  have hc : isWordChar c = true := hword c List.mem_cons_self
  constructor
  · intro rest
    have hfeed : isWordChar '\n' = false := rfl
    have htake : (c :: w' ++ '\n' :: rest).takeWhile isWordChar = c :: w' := by
      rw [List.takeWhile_append_of_pos hword, List.takeWhile_cons_of_neg (by simp [hfeed]),
        List.append_nil]
    have hdrop : (c :: w' ++ '\n' :: rest).dropWhile isWordChar = '\n' :: rest := by
      rw [List.dropWhile_append_of_pos hword, List.dropWhile_cons_of_neg (by simp [hfeed])]
    rw [List.cons_append, value_of_isWordChar hc, ← List.cons_append, word?, htake, hdrop, hv]
    simp [hdate]
  · intro x hx
    obtain rfl : c = x := Option.some.inj hx
    have hspace : c ≠ ' ' := ne_of_holds hc rfl
    have htab : c ≠ '\t' := ne_of_holds hc rfl
    simp [isGap, hspace, htab]

theorem writes_ofBool (b : Bool) : Writes (Text.ofBool b) (.boolean b) := by
  cases b <;> exact writes_word (by decide) (by decide) rfl (by decide)

theorem value_of_isQuote {c : Char} (h : c = '"' ∨ c = '\'') :
    value nestingLimit (c :: t) =
      (readQuoted? (c :: t)).map fun (s, rest) => (.string s, rest) := by
  rcases h with rfl | rfl <;> rfl

/-- A text in quotes begins with a quote of one of the two kinds. -/
theorem exists_quote_eq_cons (t : Text) : ∃ c w, quote t = c :: w ∧ (c = '"' ∨ c = '\'') := by
  unfold quote
  simp only
  split_ifs
  · exact ⟨'"', _, rfl, Or.inl rfl⟩
  · exact ⟨'\'', _, rfl, Or.inr rfl⟩
  · exact ⟨'"', _, rfl, Or.inl rfl⟩
  · exact ⟨'\'', _, rfl, Or.inr rfl⟩
  · exact ⟨'"', _, rfl, Or.inl rfl⟩
  · exact ⟨'"', _, rfl, Or.inl rfl⟩

theorem writes_quote (t : Text) : Writes (quote t) (.string t) := by
  obtain ⟨c, w, hquote, hc⟩ := exists_quote_eq_cons t
  constructor
  · intro rest
    have hread : readQuoted? (quote t ++ '\n' :: rest) = some (t, '\n' :: rest) :=
      readQuoted?_quote t (by simp) (by simp)
    rw [hquote, List.cons_append] at hread ⊢
    rw [value_of_isQuote hc, hread]
    rfl
  · rw [hquote]
    rcases hc with rfl | rfl <;> simp [isGap]

end LootFilter.Toml
