import LootFilter.Json.Reader
import LootFilter.Number.Literal

/-!
# Values told from their text

Two values that are written alike are the same value. What follows a value in a text cannot be
mistaken for a part of it: a text ends at its closing quote, a list or an object at its closing
bracket, and a number where no digit follows, which is why values are compared together with what
follows them. The first character tells which kind of value it is.

Numbers that are kept as they were written are left out: such a number could be written like an
integer.

## Main definitions

* `Json.IsPlain` — values without such numbers
* `Json.Stops` — what may follow a number
* `Json.Kind`, `Json.kind` — the kinds of values

## Main results

* `Json.told_prettyAt` — a value is told from a text that begins with it
* `Json.pretty_inj` — a value is told from its text
-/

namespace LootFilter.Json

/-- A value in which no number is kept as it was written. -/
inductive IsPlain : Json → Prop
  | null : IsPlain .null
  | bool (b : Bool) : IsPlain (.bool b)
  | integer (n : Int) : IsPlain (.integer n)
  | string (t : Text) : IsPlain (.string t)
  | array {elements : List Json} (h : ∀ j ∈ elements, IsPlain j) : IsPlain (.array elements)
  | object {fields : List (Text × Json)} (h : ∀ f ∈ fields, IsPlain f.2) : IsPlain (.object fields)

/-- A text that does not go on with a digit. -/
def Stops (r : Text) : Prop := ∀ c ∈ r.head?, c.isDigit = false

variable {r r' : Text}

theorem stops_nil : Stops [] := by simp [Stops]

theorem stops_cons {c : Char} (h : c.isDigit = false) (r : Text) : Stops (c :: r) := by
  simpa [Stops] using h

/-! ### Leaves -/

theorem takeWhile_ofNat_append (n : Nat) (h : Stops r) :
    (Text.ofNat n ++ r).takeWhile (·.isDigit) = Text.ofNat n := by
  rw [List.takeWhile_append_of_pos fun c hc => Text.isDigit_of_mem_ofNat hc]
  cases r with
  | nil => simp
  | cons c r => rw [List.takeWhile_cons_of_neg (by simpa using h c rfl), List.append_nil]

/-- A number is read up to where no digit follows. -/
theorem dropWhile_ofNat_append (n : Nat) (h : Stops r) :
    (Text.ofNat n ++ r).dropWhile (·.isDigit) = r := by
  have happend := List.takeWhile_append_dropWhile (p := (·.isDigit)) (l := Text.ofNat n ++ r)
  rw [takeWhile_ofNat_append n h] at happend
  exact List.append_cancel_left happend

theorem ofNat_inj {m n : Nat} (h : Text.ofNat m = Text.ofNat n) : m = n := by
  have hm := Literal.natural?_ofNat m
  rw [h, Literal.natural?_ofNat] at hm
  exact (Option.some.inj hm).symm

theorem ofNat_append_inj {m n : Nat} (hr : Stops r) (hr' : Stops r')
    (h : Text.ofNat m ++ r = Text.ofNat n ++ r') : m = n ∧ r = r' := by
  have hdigits : Text.ofNat m = Text.ofNat n := by
    rw [← takeWhile_ofNat_append m hr, h, takeWhile_ofNat_append n hr']
  rw [hdigits] at h
  exact ⟨ofNat_inj hdigits, List.append_cancel_left h⟩

/-- A natural number begins with a digit. -/
theorem exists_ofNat_eq_cons (n : Nat) : ∃ c t, Text.ofNat n = c :: t ∧ c.isDigit = true := by
  cases h : Text.ofNat n with
  | nil => exact absurd h (Text.ofNat_ne_nil n)
  | cons c t => exact ⟨c, t, rfl, Text.isDigit_of_mem_ofNat (n := n) (by simp [h])⟩

theorem minus_cons_ne_ofNat_append {n : Nat} {t : Text} : '-' :: t ≠ Text.ofNat n ++ r := by
  intro h
  obtain ⟨c, u, hc, hdigit⟩ := exists_ofNat_eq_cons n
  rw [hc, List.cons_append] at h
  obtain ⟨rfl, -⟩ := List.cons.inj h
  exact absurd hdigit (by decide)

theorem ofInt_append_inj {m n : Int} (hr : Stops r) (hr' : Stops r')
    (h : Text.ofInt m ++ r = Text.ofInt n ++ r') : m = n ∧ r = r' := by
  cases m with
  | ofNat m =>
    cases n with
    | ofNat n =>
      obtain ⟨rfl, hrest⟩ := ofNat_append_inj hr hr' h
      exact ⟨rfl, hrest⟩
    | negSucc n => exact absurd h.symm minus_cons_ne_ofNat_append
  | negSucc m =>
    cases n with
    | ofNat n => exact absurd h minus_cons_ne_ofNat_append
    | negSucc n =>
      obtain ⟨hnumber, hrest⟩ := ofNat_append_inj hr hr' (List.cons.inj h).2
      exact ⟨congrArg Int.negSucc (Nat.succ.inj hnumber), hrest⟩

/-- A text in quotes is told from what it is read back as. -/
theorem quoted_append_inj {t t' : Text} (h : quoted t ++ r = quoted t' ++ r') :
    t = t' ∧ r = r' := by
  have hread := stringFrom_escaped [] t r
  have hbody : escaped t ++ '"' :: r = escaped t' ++ '"' :: r' := by
    simpa [quoted] using h
  rw [hbody, stringFrom_escaped] at hread
  obtain ⟨ht, hr⟩ := Prod.mk.inj (Except.ok.inj hread)
  exact ⟨ht.symm, hr.symm⟩

theorem ofBool_append_inj {b b' : Bool} (h : Text.ofBool b ++ r = Text.ofBool b' ++ r') :
    b = b' ∧ r = r' := by
  cases b <;> cases b' <;> simp_all [Text.ofBool]

/-! ### Lists -/

/-- The entries of a list or object between its brackets. -/
def framed (level : Nat) : List Text → Text
  | [] => []
  | e :: es => indented level (e :: es)

theorem prettyElements_eq_map (level : Nat) (js : List Json) :
    prettyElements level js = js.map (prettyAt level) := by
  induction js with
  | nil => rfl
  | cons j js ih => rw [prettyElements, ih, List.map_cons]

/-- A field as an entry of an object. -/
def field (level : Nat) (f : Text × Json) : Text := quoted f.1 ++ ": " ++ prettyAt level f.2

theorem prettyFields_eq_map (level : Nat) (fs : List (Text × Json)) :
    prettyFields level fs = fs.map (field level) := by
  induction fs with
  | nil => rfl
  | cons f fs ih => rw [prettyFields, ih, List.map_cons, field]

theorem prettyAt_array (level : Nat) (js : List Json) :
    prettyAt level (.array js) = brackets (framed level (js.map (prettyAt (level + 1)))) := by
  cases js with
  | nil => rfl
  | cons j js => rw [prettyAt, prettyElements_eq_map, List.map_cons, framed]

theorem prettyAt_object (level : Nat) (fs : List (Text × Json)) :
    prettyAt level (.object fs) = braces (framed level (fs.map (field (level + 1)))) := by
  cases fs with
  | nil => rfl
  | cons f fs => rw [prettyAt, prettyFields_eq_map, List.map_cons, framed, field]

theorem joined_cons (separator t : Text) (ts : List Text) :
    Text.joined separator (t :: ts) = t ++ ts.flatMap (separator ++ ·) := by
  induction ts generalizing t with
  | nil => simp [Text.joined]
  | cons u ts ih => simp [Text.joined, ih]

/-- With a comma in front, every entry stands behind a comma and a line break. -/
theorem comma_cons_indented (level : Nat) (e : Text) (es : List Text) :
    ',' :: indented level (e :: es) =
      (e :: es).flatMap (fun e => ',' :: lineBreak (level + 1) ++ e) ++ lineBreak level := by
  rw [indented, joined_cons]
  simp

/-- Two things are told from texts that begin with how they are written. -/
def Told {α : Type} (write : α → Text) (a a' : α) : Prop :=
  ∀ r r', Stops r → Stops r' → write a ++ r = write a' ++ r' → a = a' ∧ r = r'

section Entries

variable {α : Type} {write : α → Text} {as as' : List α} {separator : Text}

theorem stops_flatMap_append (hr : Stops r) :
    Stops (as.flatMap (fun a => ',' :: separator ++ write a) ++ r) := by
  cases as with
  | nil => exact hr
  | cons a as => exact stops_cons (by decide) _

/-- Entries that are told one by one are told together. -/
theorem flatMap_append_inj (h : ∀ a ∈ as, ∀ a' ∈ as', Told write a a')
    (heq : as.flatMap (fun a => ',' :: separator ++ write a) ++ '\n' :: r =
      as'.flatMap (fun a => ',' :: separator ++ write a) ++ '\n' :: r') : as = as' ∧ r = r' := by
  have hstops (r : Text) : Stops ('\n' :: r) := stops_cons (by decide) r
  induction as generalizing as' with
  | nil =>
    cases as' with
    | nil => exact ⟨rfl, (List.cons.inj heq).2⟩
    | cons a' as' => exact absurd (List.cons.inj heq).1 (by decide)
  | cons a as ih =>
    cases as' with
    | nil => exact absurd (List.cons.inj heq).1 (by decide)
    | cons a' as' =>
      simp only [List.flatMap_cons, List.append_assoc, List.cons_append, List.cons.injEq,
        true_and, List.append_cancel_left_eq] at heq
      -- behind the first entry stands the comma of the next one, or the line feed at the end
      obtain ⟨rfl, hrest⟩ := h a List.mem_cons_self a' List.mem_cons_self _ _
        (stops_flatMap_append (hstops r)) (stops_flatMap_append (hstops r')) heq
      obtain ⟨rfl, rfl⟩ := ih
        (fun b hb b' hb' => h b (List.mem_cons_of_mem a hb) b' (List.mem_cons_of_mem a hb')) hrest
      exact ⟨rfl, rfl⟩

/-- Entries are told from a list or object that they make up. -/
theorem framed_append_inj {level : Nat} {closing : Char} (hclosing : closing ≠ '\n')
    (h : ∀ a ∈ as, ∀ a' ∈ as', Told write a a')
    (heq : framed level (as.map write) ++ closing :: r =
      framed level (as'.map write) ++ closing :: r') : as = as' ∧ r = r' := by
  cases as with
  | nil =>
    cases as' with
    | nil => exact ⟨rfl, (List.cons.inj heq).2⟩
    | cons a' as' => exact absurd (List.cons.inj heq).1 hclosing
  | cons a as =>
    cases as' with
    | nil => exact absurd (List.cons.inj heq).1.symm hclosing
    | cons a' as' =>
      -- with a comma in front the first entry is like the others
      have hcomma := congrArg (',' :: ·) heq
      simp only [framed, List.map_cons, ← List.cons_append, comma_cons_indented] at hcomma
      simp only [← List.map_cons, List.flatMap_map, List.append_assoc] at hcomma
      obtain ⟨has, hrest⟩ := flatMap_append_inj h hcomma
      exact ⟨has, (List.cons.inj (List.append_cancel_left hrest)).2⟩

end Entries

/-! ### Kinds -/

/-- The kinds of values. -/
inductive Kind
  | null | bool | number | string | array | object
  deriving DecidableEq

/-- The kind of a value. -/
def kind : Json → Kind
  | null => .null
  | bool _ => .bool
  | integer _ | decimal _ => .number
  | string _ => .string
  | array _ => .array
  | object _ => .object

/-- The kind of value that begins with a character. -/
def Kind.ofLead (c : Char) : Kind :=
  if c = 'n' then .null
  else if c = 't' ∨ c = 'f' then .bool
  else if c = '"' then .string
  else if c = '[' then .array
  else if c = '{' then .object
  else .number

theorem Kind.ofLead_of_isDigit {c : Char} (h : c.isDigit = true) : ofLead c = .number := by
  have hne {d : Char} (hd : d.isDigit = false) : c ≠ d := Text.ne_of_holds h hd
  rw [ofLead, if_neg (hne rfl), if_neg (not_or.2 ⟨hne rfl, hne rfl⟩), if_neg (hne rfl),
    if_neg (hne rfl), if_neg (hne rfl)]

/-- The first character of a value tells its kind. -/
theorem IsPlain.exists_lead {j : Json} (h : j.IsPlain) (level : Nat) :
    ∃ c t, prettyAt level j = c :: t ∧ Kind.ofLead c = j.kind := by
  cases h with
  | null => exact ⟨'n', "ull", rfl, rfl⟩
  | bool b =>
    cases b with
    | false => exact ⟨'f', "alse", rfl, rfl⟩
    | true => exact ⟨'t', "rue", rfl, rfl⟩
  | integer n =>
    cases n with
    | ofNat n =>
      obtain ⟨c, t, hc, hdigit⟩ := exists_ofNat_eq_cons n
      exact ⟨c, t, hc, Kind.ofLead_of_isDigit hdigit⟩
    | negSucc n => exact ⟨'-', Text.ofNat (n + 1), rfl, rfl⟩
  | string t => exact ⟨'"', escaped t ++ ['"'], rfl, rfl⟩
  | array => exact ⟨'[', _, prettyAt_array level _, rfl⟩
  | object => exact ⟨'{', _, prettyAt_object level _, rfl⟩

theorem kind_eq_of_append_eq {j j' : Json} (h : j.IsPlain) (h' : j'.IsPlain) {level : Nat}
    (heq : prettyAt level j ++ r = prettyAt level j' ++ r') : j.kind = j'.kind := by
  obtain ⟨c, t, hj, hkind⟩ := h.exists_lead level
  obtain ⟨c', t', hj', hkind'⟩ := h'.exists_lead level
  rw [hj, hj'] at heq
  obtain ⟨rfl, -⟩ := List.cons.inj heq
  rw [← hkind, hkind']

/-! ### Values -/

/-- Fields are told if their values are: a key is told from its quotes. -/
theorem told_field {level : Nat} {f f' : Text × Json} (h : Told (prettyAt level) f.2 f'.2) :
    Told (field level) f f' := by
  intro r r' hr hr' heq
  simp only [field, List.append_assoc] at heq
  obtain ⟨hkey, hrest⟩ := quoted_append_inj heq
  obtain ⟨hvalue, hr⟩ := h r r' hr hr' (List.append_cancel_left hrest)
  exact ⟨Prod.ext hkey hvalue, hr⟩

/-- A value is told from a text that begins with it. -/
theorem told_prettyAt {j j' : Json} (h : j.IsPlain) (h' : j'.IsPlain) (level : Nat) :
    Told (prettyAt level) j j' := by
  -- what a value is compared with is arbitrary, as the values inside are compared as well
  induction h generalizing j' level with
  | null =>
    intro r r' _ _ heq
    have hkind := kind_eq_of_append_eq .null h' heq
    cases h' with
    | null => exact ⟨rfl, List.append_cancel_left heq⟩
    | _ => exact Kind.noConfusion hkind
  | bool b =>
    intro r r' _ _ heq
    have hkind := kind_eq_of_append_eq (.bool b) h' heq
    cases h' with
    | bool b' =>
      obtain ⟨rfl, hr⟩ := ofBool_append_inj heq
      exact ⟨rfl, hr⟩
    | _ => exact Kind.noConfusion hkind
  | integer n =>
    intro r r' hr hr' heq
    have hkind := kind_eq_of_append_eq (.integer n) h' heq
    cases h' with
    | integer n' =>
      obtain ⟨rfl, hr⟩ := ofInt_append_inj hr hr' heq
      exact ⟨rfl, hr⟩
    | _ => exact Kind.noConfusion hkind
  | string t =>
    intro r r' _ _ heq
    have hkind := kind_eq_of_append_eq (.string t) h' heq
    cases h' with
    | string t' =>
      obtain ⟨rfl, hr⟩ := quoted_append_inj heq
      exact ⟨rfl, hr⟩
    | _ => exact Kind.noConfusion hkind
  | array h ih =>
    intro r r' _ _ heq
    have hkind := kind_eq_of_append_eq (.array h) h' heq
    cases h' with
    | array h' =>
      rw [prettyAt_array, prettyAt_array, brackets, brackets] at heq
      simp only [List.cons_append, List.append_assoc, List.cons.injEq, true_and,
        List.nil_append] at heq
      obtain ⟨rfl, hr⟩ := framed_append_inj (by decide)
        (fun j hj j' hj' => ih j hj (h' j' hj') (level + 1)) heq
      exact ⟨rfl, hr⟩
    | _ => exact Kind.noConfusion hkind
  | object h ih =>
    intro r r' _ _ heq
    have hkind := kind_eq_of_append_eq (.object h) h' heq
    cases h' with
    | object h' =>
      rw [prettyAt_object, prettyAt_object, braces, braces] at heq
      simp only [List.cons_append, List.append_assoc, List.cons.injEq, true_and,
        List.nil_append] at heq
      obtain ⟨rfl, hr⟩ := framed_append_inj (by decide)
        (fun f hf f' hf' => told_field (ih f hf (h' f' hf') (level + 1))) heq
      exact ⟨rfl, hr⟩
    | _ => exact Kind.noConfusion hkind

/-- A value is told from its text. -/
theorem pretty_inj {j j' : Json} (h : j.IsPlain) (h' : j'.IsPlain) (heq : pretty j = pretty j') :
    j = j' := by
  have hprefix : prettyAt 0 j ++ [] = prettyAt 0 j' ++ [] := congrArg (· ++ []) heq
  exact (told_prettyAt h h' 0 [] [] stops_nil stops_nil hprefix).1

end LootFilter.Json
