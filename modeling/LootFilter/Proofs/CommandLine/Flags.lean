import LootFilter.CommandLine.Reader

/-!
# Flags among the arguments

Every level of commands takes in the four flags by the same names. A flag may stand anywhere between
other arguments: whatever the level holds by then is taken in first, and the flag is added to it.

## Main definitions

* `FlagName`, `FlagName.argument` — the flags, and how they are given
* `Flags.ofNames` — the flags of a list of names
* `Progress.Gives` — what has been given so far, with a value that is still held

## Main results

* `ArgumentForm.ofText_long`, `ArgumentForm.ofText_longWith` — how names are told from values
* `Grammar.take_long`, `Grammar.take_longWith`, `Grammar.take_word` — one argument more
* `Level.scan_flags` — a level takes in any flags without repetition
-/

namespace LootFilter

/-! ### Flags by name -/

/-- A flag that all commands understand. -/
inductive FlagName
  | verbose | quiet | json | noColor
  deriving Repr, DecidableEq

namespace FlagName

/-- The long name of a flag. -/
def name : FlagName → Text
  | .verbose => "verbose"
  | .quiet => "quiet"
  | .json => "json"
  | .noColor => "no-color"

/-- The argument that gives a flag. -/
def argument (f : FlagName) : Text := "--" ++ f.name

/-- Whether a flag is given. -/
def isGiven : FlagName → Flags → Bool
  | .verbose, flags => flags.verbose
  | .quiet, flags => flags.quiet
  | .json, flags => flags.json
  | .noColor, flags => flags.noColor

/-- The flags with one more flag given. -/
def give : FlagName → Flags → Flags
  | .verbose, flags => { flags with verbose := true }
  | .quiet, flags => { flags with quiet := true }
  | .json, flags => { flags with json := true }
  | .noColor, flags => { flags with noColor := true }

/-- The parameter of a flag, on any level. -/
def parameter {α : Type} (f : FlagName) : Parameter (Level α) :=
  .mark (fun l => f.isGiven l.flags) fun l => { l with flags := f.give l.flags }

variable {f g : FlagName} {flags : Flags}

theorem long?_name {α : Type} (f : FlagName) :
    Level.long? f.name = some (f.parameter : Parameter (Level α)) := by
  cases f <;> rfl

theorem equals_not_mem_name (f : FlagName) : '=' ∉ f.name := by
  cases f <;> decide

theorem name_ne_nil (f : FlagName) : f.name ≠ [] := by
  cases f <;> decide

theorem isGiven_give : g.isGiven (f.give flags) = (g == f || g.isGiven flags) := by
  cases f <;> cases g <;> rfl

theorem isGiven_union {flags' : Flags} :
    f.isGiven (flags.union flags') = (f.isGiven flags || f.isGiven flags') := by
  cases f <;> rfl

end FlagName

namespace Flags

/-- The flags of some names. -/
def ofNames (fs : List FlagName) : Flags :=
  ⟨fs.contains .verbose, fs.contains .quiet, fs.contains .json, fs.contains .noColor⟩

variable {flags flags' : Flags}

theorem ext_isGiven (h : ∀ f : FlagName, f.isGiven flags = f.isGiven flags') : flags = flags' := by
  cases flags
  cases flags'
  simpa [FlagName.isGiven] using And.intro (h .verbose) ⟨h .quiet, h .json, h .noColor⟩

theorem isGiven_ofNames (f : FlagName) (fs : List FlagName) :
    f.isGiven (ofNames fs) = fs.contains f := by
  cases f <;> rfl

theorem union_ofNames (fs gs : List FlagName) :
    (ofNames fs).union (ofNames gs) = ofNames (fs ++ gs) :=
  ext_isGiven fun f => by
    rw [FlagName.isGiven_union, isGiven_ofNames, isGiven_ofNames, isGiven_ofNames, Bool.eq_iff_iff]
    simp

theorem union_ofNames_cons (f : FlagName) (fs : List FlagName) :
    (f.give flags).union (ofNames fs) = flags.union (ofNames (f :: fs)) :=
  ext_isGiven fun g => by
    simp only [FlagName.isGiven_union, isGiven_ofNames, FlagName.isGiven_give, List.contains_cons,
      Bool.or_assoc, Bool.or_left_comm]

end Flags

/-! ### The form of an argument -/

namespace Text

variable {c : Char} {s : Text}

theorem splitAtFirst?_of_not_mem (h : c ∉ s) : splitAtFirst? c s = none := by
  induction s with
  | nil => rfl
  | cons d s ih =>
    rw [List.mem_cons, not_or] at h
    rw [splitAtFirst?, if_neg (Ne.symm h.1), ih h.2]
    rfl

theorem splitAtFirst?_append (h : c ∉ s) (t : Text) :
    splitAtFirst? c (s ++ c :: t) = some (s, t) := by
  induction s with
  | nil => simp [splitAtFirst?]
  | cons d s ih =>
    rw [List.mem_cons, not_or] at h
    rw [List.cons_append, splitAtFirst?, if_neg (Ne.symm h.1), ih h.2]
    rfl

end Text

namespace ArgumentForm

variable {name : Text}

theorem ofText_hyphens {c : Char} {rest : Text} : ofText ('-' :: '-' :: c :: rest) =
    match Text.splitAtFirst? '=' (c :: rest) with
    | some (name, value) => .long name (some value)
    | none => .long (c :: rest) none := rfl

/-- A name alone has no value. -/
theorem ofText_long (hne : name ≠ []) (h : '=' ∉ name) :
    ofText ("--" ++ name) = .long name none := by
  obtain ⟨c, rest, rfl⟩ := List.exists_cons_of_ne_nil hne
  rw [show ("--" : Text) ++ c :: rest = '-' :: '-' :: c :: rest from rfl, ofText_hyphens,
    Text.splitAtFirst?_of_not_mem h]

/-- The value is all that stands behind the first equals sign. -/
theorem ofText_longWith (hne : name ≠ []) (h : '=' ∉ name) (value : Text) :
    ofText ("--" ++ name ++ "=" ++ value) = .long name (some value) := by
  obtain ⟨c, rest, rfl⟩ := List.exists_cons_of_ne_nil hne
  have cut : Text.splitAtFirst? '=' (c :: (rest ++ '=' :: value)) = some (c :: rest, value) :=
    Text.splitAtFirst?_append h value
  rw [show ("--" : Text) ++ c :: rest ++ "=" ++ value = '-' :: '-' :: c :: (rest ++ '=' :: value)
    by simp [List.append_assoc], ofText_hyphens, cut]

theorem ofText_word {word : Text} (h : word.head? ≠ some '-') : ofText word = .word := by
  unfold ofText
  split <;> simp_all

end ArgumentForm

/-! ### One argument more -/

namespace Progress

variable {σ : Type}

/-- What has been given in front of a double hyphen: a value that is still held counts, and nothing
waits for one. -/
structure Gives (p : Progress σ) (given : σ) : Prop where
  /-- A value that is held is taken in without a fault. -/
  settle : p.settle = .ok { p with given, pending := .nothing }
  /-- No option waits for its value. -/
  isAwaiting : p.isAwaiting = false
  /-- The double hyphen has not been met. -/
  pastSeparator : p.pastSeparator = false

theorem gives_of_nothing (given : σ) (positional : List (Intake σ)) :
    Gives { given, positional } given :=
  ⟨rfl, rfl, rfl⟩

namespace Gives

variable {p : Progress σ} {given given' : σ}

theorem settled (h : p.Gives given) :
    Gives { p with given := given', pending := .nothing } given' :=
  ⟨rfl, rfl, h.pastSeparator⟩

theorem takeFlag {take : σ → Except UsageFault σ} (h : p.Gives given)
    (ok : take given = .ok given') :
    p.takeFlag take = .ok { p with given := given', pending := .nothing } := by
  simp only [Progress.takeFlag, h.settle, ok, bind, Except.bind]
  rfl

end Gives

end Progress

namespace Grammar

variable {σ : Type} {g : Grammar σ} {p : Progress σ} {given given' : σ} {name : Text}

/-- A flag is taken in behind what has been given. -/
theorem take_long {take : σ → Except UsageFault σ} (hne : name ≠ []) (he : '=' ∉ name)
    (hn : g.long? name = some (.flag take)) (h : p.Gives given) (ok : take given = .ok given') :
    g.take p ("--" ++ name) = .ok { p with given := given', pending := .nothing } := by
  rw [Grammar.take, if_neg (Bool.eq_false_iff.mp h.pastSeparator), ArgumentForm.ofText_long hne he]
  simp only [takeLong, hn]
  exact h.takeFlag ok

/-- An option with its value is taken in behind what has been given. -/
theorem take_longWith {take : Intake σ} {value : Text} (hne : name ≠ []) (he : '=' ∉ name)
    (hn : g.long? name = some (.option take)) (h : p.Gives given)
    (ok : take value given = .ok given') :
    g.take p ("--" ++ name ++ "=" ++ value) =
      .ok { p with given := given', pending := .nothing } := by
  rw [Grammar.take, if_neg (Bool.eq_false_iff.mp h.pastSeparator),
    ArgumentForm.ofText_longWith hne he]
  simp only [takeLong, hn]
  exact h.takeFlag ok

/-- A word is held as the value of the next positional parameter. -/
theorem take_word {take : Intake σ} {positional : List (Intake σ)} {word : Text}
    (hw : word.head? ≠ some '-') (hp : p.positional = take :: positional) (h : p.Gives given)
    (ok : take word given = .ok given') :
    ∃ q, g.take p word = .ok q ∧ q.Gives given' ∧ q.positional = positional := by
  refine ⟨{ p with given, pending := .holding take word, positional }, ?_,
    ⟨?_, rfl, h.pastSeparator⟩, rfl⟩
  · rw [Grammar.take, if_neg (Bool.eq_false_iff.mp h.pastSeparator), ArgumentForm.ofText_word hw]
    have waits := h.isAwaiting
    simp only [takeWord, hp]
    split
    · simp_all [Progress.isAwaiting]
    · rw [h.settle]
      rfl
  · simp only [Progress.settle, ok]
    rfl

theorem scan_cons {q : Progress σ} {argument : Text} (hc : g.isCommand argument = false)
    (ht : g.take p argument = .ok q) (rest : List Text) :
    g.scan p (argument :: rest) = g.scan q rest := by
  rw [scan, hc, Bool.and_false, if_neg Bool.false_ne_true, ht]
  rfl

theorem scan_nil (h : p.Gives given) : g.scan p [] = .ok (given, none) := by
  rw [scan, h.settle]
  rfl

end Grammar

/-! ### Flags on a level -/

namespace Level

variable {α β : Type} {g : Grammar (Level α)} {p : Progress (Level α)} {l : Level α}

/-- A value of the level's own is taken in if there is none. -/
theorem single_eq_ok {given : α → Option β} {read : Text → Except UsageFault β} {give : β → α → α}
    {t : Text} {b : β} (empty : given l.own = none) (ok : read t = .ok b) :
    Level.single given read give t l = .ok { l with own := give b l.own } := by
  rw [Level.single, Parameter.single, empty, ok]
  rfl

/-- A flag is taken in if it has not been given. -/
theorem take_flag {f : FlagName} (hg : g.long? f.name = some f.parameter) (h : p.Gives l)
    (fresh : f.isGiven l.flags = false) :
    g.take p f.argument =
      .ok { p with given := { l with flags := f.give l.flags }, pending := .nothing } :=
  Grammar.take_long f.name_ne_nil f.equals_not_mem_name hg h
    (if_neg (Bool.eq_false_iff.mp fresh))

/-- A level takes in any flags without repetition. -/
theorem scan_flags (hg : ∀ f : FlagName, g.long? f.name = some f.parameter)
    (hc : ∀ f : FlagName, g.isCommand f.argument = false) {fs : List FlagName} (distinct : fs.Nodup)
    (fresh : ∀ f ∈ fs, f.isGiven l.flags = false) (positional : List (Intake (Level α)))
    (rest : List Text) :
    g.scan { given := l, positional } (fs.map FlagName.argument ++ rest) =
      g.scan { given := { l with flags := l.flags.union (.ofNames fs) }, positional } rest := by
  induction fs generalizing l with
  | nil => simp [Flags.ofNames, Flags.union]
  | cons f fs ih =>
    obtain ⟨new, distinct⟩ := List.nodup_cons.mp distinct
    have step := take_flag (hg f) (Progress.gives_of_nothing l positional) (fresh f (by simp))
    rw [List.map_cons, List.cons_append, Grammar.scan_cons (hc f) step, ih distinct]
    · simp only [Flags.union_ofNames_cons]
    · intro k hk
      have : k ≠ f := fun e => new (e ▸ hk)
      simp [FlagName.isGiven_give, this, fresh k (List.mem_cons_of_mem f hk)]

end Level

end LootFilter
