import LootFilter.Settings.Basic

/-!
# Settings key by key

What a word means as the value of a key, and what setting a setting does to each key: the one that
is set takes the value of the word, and every other one keeps its value.

## Main definitions

* `SettingValue`, `Settings.get?` — the value of a setting
* `SettingKey.valueOf?` — the value that a word stands for
* `Settings.IsUpdated` — settings that differ in the value of one key at most

## Main results

* `Settings.set_cases` — what setting a setting gives
-/

namespace LootFilter

/-- The value of a setting. -/
inductive SettingValue
  /-- A truth value. -/
  | boolean (b : Bool)
  /-- A text. -/
  | text (t : Text)
  deriving Repr, DecidableEq

/-- The truth value that a word stands for, in letters of either case. -/
def Settings.truthValue? (word : Text) : Option Bool :=
  if word.lowercase ∈ trueWords then some true
  else if word.lowercase ∈ falseWords then some false
  else none

/-- The value that a word stands for, if the key can have it: any text for the default filter, and
a truth value for the others. -/
def SettingKey.valueOf? (word : Text) : SettingKey → Option SettingValue
  | .defaultFilter => some (.text word)
  | .color | .json | .warningsAsErrors => (Settings.truthValue? word).map .boolean

theorem SettingKey.name_inj {j k : SettingKey} (h : j.name = k.name) : j = k := by
  have hj := ofName?_name j
  rw [h, ofName?_name] at hj
  exact (Option.some.inj hj).symm

namespace Settings

/-- The value of a setting, if it is set. -/
def get? (s : Settings) : SettingKey → Option SettingValue
  | .color => s.color.map .boolean
  | .json => s.json.map .boolean
  | .warningsAsErrors => s.warningsAsErrors.map .boolean
  | .defaultFilter => s.defaultFilter.map .text

/-- Settings that have a value for one key, and for the others what some settings have. -/
def IsUpdated (s : Settings) (k : SettingKey) (v : SettingValue) (s' : Settings) : Prop :=
  ∀ j, s'.get? j = if j = k then some v else s.get? j

variable {s s' : Settings} {k : SettingKey} {v : SettingValue} {key word : Text}

theorem IsUpdated.get?_self (h : s.IsUpdated k v s') : s'.get? k = some v := by
  rw [h k, if_pos rfl]

theorem IsUpdated.get?_of_ne (h : s.IsUpdated k v s') {j : SettingKey} (hj : j ≠ k) :
    s'.get? j = s.get? j := by
  rw [h j, if_neg hj]

theorem boolean_eq (word : Text) :
    boolean word =
      match truthValue? word with
      | some b => .ok b
      | none => .error (.invalidBoolean word) := by
  by_cases htrue : word.lowercase ∈ trueWords
  · simp [boolean, truthValue?, htrue]
  · by_cases hfalse : word.lowercase ∈ falseWords
    · simp [boolean, truthValue?, htrue, hfalse]
    · simp [boolean, truthValue?, htrue, hfalse]

/-- A word that stands for a value updates the settings with it. -/
theorem setKey_of_valueOf?_eq_some (h : k.valueOf? word = some v) :
    ∃ s', s.setKey k word = .ok s' ∧ s.IsUpdated k v s' := by
  cases k with
  | defaultFilter =>
    obtain rfl := Option.some.inj h
    refine ⟨_, rfl, ?_⟩
    intro j
    cases j <;> rfl
  | color | json | warningsAsErrors =>
    obtain ⟨b, hb, rfl⟩ := Option.map_eq_some_iff.mp h
    refine ⟨_, by rw [setKey, boolean_eq, hb]; rfl, ?_⟩
    intro j
    cases j <;> rfl

theorem setKey_of_valueOf?_eq_none (h : k.valueOf? word = none) :
    s.setKey k word = .error (.invalidBoolean word) := by
  cases k with
  | defaultFilter => exact absurd h (by simp [SettingKey.valueOf?])
  | color | json | warningsAsErrors =>
    have hnone : truthValue? word = none := Option.map_eq_none_iff.mp h
    rw [setKey, boolean_eq, hnone]
    rfl

/-- What setting a setting gives: updated settings, or a fault with the word that is no truth value
or with the name that is no key. -/
theorem set_cases (s : Settings) (key word : Text) :
    (∃ (k : SettingKey) (v : SettingValue) (s' : Settings), key = k.name ∧
        k.valueOf? word = some v ∧ s.set key word = .ok s' ∧ s.IsUpdated k v s') ∨
      (∃ k : SettingKey, key = k.name ∧ k.valueOf? word = none ∧
        s.set key word = .error (.invalidBoolean word)) ∨
      ((∀ k : SettingKey, key ≠ k.name) ∧ s.set key word = .error (.unknownKey key)) := by
  unfold set
  cases hname : SettingKey.ofName? key with
  | none =>
    refine Or.inr (Or.inr ⟨?_, rfl⟩)
    rintro k rfl
    rw [SettingKey.ofName?_name] at hname
    exact absurd hname (by simp)
  | some k =>
    have hkey : key = k.name := SettingKey.ofName?_eq_some_iff.mp hname
    cases hvalue : k.valueOf? word with
    | none => exact Or.inr (Or.inl ⟨k, hkey, hvalue, setKey_of_valueOf?_eq_none hvalue⟩)
    | some v =>
      obtain ⟨s', hset, hupdated⟩ := setKey_of_valueOf?_eq_some (s := s) hvalue
      exact Or.inl ⟨k, v, s', hkey, hvalue, hset, hupdated⟩

end Settings

end LootFilter
