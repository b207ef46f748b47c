import LootFilter.Program.Run
import LootFilter.Proofs.CommandLine.Flags
import Mathlib.Data.List.Nodup

/-!
# Items given on the command line

A preview takes the filter, the properties of the item and the flags in any order. Each argument
fills one slot, and the arguments of an item fill each slot once. So a level of which no slot is
filled takes in the arguments one by one, whatever their order, and holds in the end what they give.

## Main definitions

* `PreviewArgument`, `PreviewArgument.spelled` — the arguments behind the command
* `PreviewArgument.Slot`, `Slot.content` — what an argument fills, and what fills it on a level
* `Item.arguments`, `Item.options` — the arguments that describe an item, and what they give

## Main results

* `PreviewArgument.content_give` — an argument changes its own slot
* `PreviewArgument.take_spelled`, `PreviewArgument.scan_spelled` — one argument, and all of them
* `Item.applyTo_options` — the options of an item describe the item
* `Invocation.ofArguments_of_perm_arguments` — every item can be given, in any order
-/

namespace LootFilter

open CommandLine

/-! ### Arguments and what they fill -/

/-- An argument behind the command of a preview. -/
inductive PreviewArgument
  /-- The file with the filter. -/
  | filter (file : Text)
  /-- A text of the item. -/
  | text (p : TextProperty) (t : Text)
  /-- A number of the item. -/
  | number (p : NumberProperty) (n : UInt32)
  /-- A flag. -/
  | flag (f : FlagName)
  deriving Repr, DecidableEq

namespace PreviewArgument

/-- What an argument of a preview fills. -/
inductive Slot
  | filter
  | property (p : Property)
  | flag (f : FlagName)
  deriving Repr, DecidableEq

/-- What an argument fills. -/
def slot : PreviewArgument → Slot
  | filter _ => .filter
  | text p _ => .property (.text p)
  | number p _ => .property (.number p)
  | flag f => .flag f

/-- The argument as it is written: a property has its value behind an equals sign. -/
def spelled : PreviewArgument → Text
  | filter file => file
  | text p t => "--" ++ optionName (.text p) ++ "=" ++ t
  | number p n => "--" ++ optionName (.number p) ++ "=" ++ Text.ofNat n.toNat
  | flag f => f.argument

/-- Whether an argument is told from the others by its spelling: the path of a file is not empty and
begins with no hyphen. -/
def IsPlain : PreviewArgument → Prop
  | filter file => file ≠ [] ∧ file.head? ≠ some '-'
  | _ => True

/-- A level with one argument more. -/
def give : PreviewArgument → Level PreviewArguments → Level PreviewArguments
  | filter file, l => { l with own := { l.own with filter := some file } }
  | text p t, l => { l with own := { l.own with item := l.own.item.withText p t } }
  | number p n, l => { l with own := { l.own with item := l.own.item.withNumber p n } }
  | flag f, l => { l with flags := f.give l.flags }

/-- The argument that fills a slot of a level. -/
def Slot.content : Slot → Level PreviewArguments → Option PreviewArgument
  | filter, l => l.own.filter.map .filter
  | property (.text p), l => (l.own.item.texts p).map (.text p)
  | property (.number p), l => (l.own.item.numbers p).map (.number p)
  | flag f, l => if f.isGiven l.flags then some (.flag f) else none

variable {a : PreviewArgument} {s : Slot} {l : Level PreviewArguments} {as : List PreviewArgument}

/-- An argument fills its own slot, and leaves the others as they are. -/
theorem content_give : s.content (a.give l) = if s = a.slot then some a else s.content l := by
  cases a with
  | filter file => rcases s with _ | (p | p) | f <;> rfl
  | text q t =>
    rcases s with _ | (p | p) | f
    case property.text =>
      by_cases h : p = q <;> simp [Slot.content, give, slot, ItemOptions.withText, h]
    all_goals rfl
  | number q n =>
    rcases s with _ | (p | p) | f
    case property.number =>
      by_cases h : p = q <;> simp [Slot.content, give, slot, ItemOptions.withNumber, h]
    all_goals rfl
  | flag g =>
    rcases s with _ | (p | p) | f
    case flag => by_cases h : f = g <;> simp [Slot.content, give, slot, FlagName.isGiven_give, h]
    all_goals rfl

theorem content_empty (s : Slot) : s.content { own := {} } = none := by
  rcases s with _ | (p | p) | f
  case flag => cases f <;> rfl
  all_goals rfl

/-- A level is told by what fills its slots, the file of the item apart. -/
theorem ext_content {l l' : Level PreviewArguments} (hf : l.own.item.file = l'.own.item.file)
    (h : ∀ s : Slot, s.content l = s.content l') : l = l' := by
  obtain ⟨flags, filter, file, texts, numbers⟩ := l
  obtain ⟨flags', filter', file', texts', numbers'⟩ := l'
  have same_flags : flags = flags' := Flags.ext_isGiven fun f => by
    have := congrArg Option.isSome (h (.flag f))
    simpa [Slot.content, apply_ite Option.isSome] using this
  have same_filter : filter = filter' :=
    Option.map_injective (fun _ _ e => PreviewArgument.filter.inj e) (h .filter)
  have same_texts : texts = texts' := funext fun p =>
    Option.map_injective (fun _ _ e => (text.inj e).2) (h (.property (.text p)))
  have same_numbers : numbers = numbers' := funext fun p =>
    Option.map_injective (fun _ _ e => (number.inj e).2) (h (.property (.number p)))
  cases hf
  rw [same_flags, same_filter, same_texts, same_numbers]

theorem file_foldl (as : List PreviewArgument) (l : Level PreviewArguments) :
    (as.foldl (fun l a => a.give l) l).own.item.file = l.own.item.file := by
  induction as generalizing l with
  | nil => rfl
  | cons a as ih =>
    rw [List.foldl_cons, ih]
    cases a <;> rfl

theorem content_foldl_of_not_mem (h : s ∉ as.map slot) :
    s.content (as.foldl (fun l a => a.give l) l) = s.content l := by
  induction as generalizing l with
  | nil => rfl
  | cons a as ih =>
    rw [List.map_cons, List.mem_cons, not_or] at h
    rw [List.foldl_cons, ih h.2, content_give, if_neg h.1]

/-- Arguments that fill different slots are all there in the end. -/
theorem content_foldl_of_mem (distinct : (as.map slot).Nodup) (h : a ∈ as) :
    a.slot.content (as.foldl (fun l a => a.give l) l) = some a := by
  induction as generalizing l with
  | nil => exact absurd h List.not_mem_nil
  | cons b as ih =>
    obtain ⟨new, distinct⟩ := List.nodup_cons.mp distinct
    rw [List.foldl_cons]
    rcases List.mem_cons.mp h with rfl | h
    · rw [content_foldl_of_not_mem new, content_give, if_pos rfl]
    · exact ih distinct h

/-! ### Taking in the arguments -/

theorem previewLong?_optionName (p : Property) :
    previewLong? (optionName p) = some (propertyOption p) := by
  rcases p with p | p <;> cases p <;> rfl

theorem previewLong?_name (f : FlagName) : previewLong? f.name = some f.parameter := by
  cases f <;> rfl

theorem equals_not_mem_optionName (p : Property) : '=' ∉ optionName p := by
  rcases p with p | p <;> cases p <;> decide

theorem optionName_ne_nil (p : Property) : optionName p ≠ [] := by
  rcases p with p | p <;> cases p <;> decide

theorem word32_ofNat (n : UInt32) : word32 (Text.ofNat n.toNat) = .ok n := by
  have small : n.toNat < UInt32.size := n.toNat_lt
  have word : n.toNat < 0x8000000000000000 := by
    simp only [UInt32.size] at small
    omega
  have read : Literal.integer? (Text.ofNat n.toNat) = some (n.toNat : Int) :=
    Literal.integer?_eq_some_iff.mpr (.bare (Literal.isDecimal_ofNat n.toNat) word)
  simp only [word32, read]
  rw [if_pos ⟨Int.natCast_nonneg _, Int.ofNat_lt.mpr small⟩, Int.toNat_natCast, UInt32.ofNat_toNat]

/-- A preview has been read so far that a level is given; a filter may follow if there is none. -/
structure Holds (p : Progress (Level PreviewArguments)) (l : Level PreviewArguments) : Prop where
  gives : p.Gives l
  positional : p.positional = if l.own.filter.isSome then [] else previewGrammar.positional

/-- An argument is taken in if its slot is empty. -/
theorem take_spelled {p : Progress (Level PreviewArguments)} (h : Holds p l) (plain : a.IsPlain)
    (empty : a.slot.content l = none) :
    ∃ q, previewGrammar.take p a.spelled = .ok q ∧ Holds q (a.give l) := by
  cases a with
  | filter file =>
    have none : l.own.filter = none := Option.map_eq_none_iff.mp empty
    have read : CommandLine.path file = .ok file := if_neg (by simpa using plain.1)
    have waiting : p.positional = previewGrammar.positional := by rw [h.positional, none]; rfl
    obtain ⟨q, taken, gives, rest⟩ :=
      Grammar.take_word plain.2 waiting h.gives (Level.single_eq_ok none read)
    exact ⟨q, taken, gives, rest⟩
  | text q t =>
    have none : l.own.item.texts q = none := Option.map_eq_none_iff.mp empty
    exact ⟨_, Grammar.take_longWith (optionName_ne_nil _) (equals_not_mem_optionName _)
      (previewLong?_optionName _) h.gives (Level.single_eq_ok none rfl), h.gives.settled,
      h.positional⟩
  | number q n =>
    have none : l.own.item.numbers q = none := Option.map_eq_none_iff.mp empty
    exact ⟨_, Grammar.take_longWith (optionName_ne_nil _) (equals_not_mem_optionName _)
      (previewLong?_optionName _) h.gives (Level.single_eq_ok none (word32_ofNat n)),
      h.gives.settled, h.positional⟩
  | flag f =>
    have fresh : f.isGiven l.flags = false := by simpa [Slot.content, slot] using empty
    exact ⟨_, Level.take_flag (previewLong?_name f) h.gives fresh, h.gives.settled, h.positional⟩

/-- Arguments that fill different slots are all taken in. -/
theorem scan_spelled {p : Progress (Level PreviewArguments)} (h : Holds p l)
    (plain : ∀ a ∈ as, a.IsPlain) (distinct : (as.map slot).Nodup)
    (empty : ∀ a ∈ as, a.slot.content l = none) :
    previewGrammar.scan p (as.map spelled) = .ok (as.foldl (fun l a => a.give l) l, none) := by
  -- the slots of the arguments that are left stay empty
  induction as generalizing p l with
  | nil => exact Grammar.scan_nil h.gives
  | cons a as ih =>
    obtain ⟨new, distinct⟩ := List.nodup_cons.mp distinct
    obtain ⟨q, taken, holds⟩ := take_spelled h (plain a (by simp)) (empty a (by simp))
    rw [List.map_cons, Grammar.scan_cons rfl taken, List.foldl_cons]
    refine ih holds (fun b hb => plain b (by simp [hb])) distinct fun b hb => ?_
    have other : b.slot ≠ a.slot := fun e => new (e ▸ List.mem_map_of_mem hb)
    rw [content_give, if_neg other, empty b (by simp [hb])]

end PreviewArgument

/-! ### The arguments of an item -/

namespace Item

open PreviewArgument

/-- The text that is given for a property. An empty base type is not given. -/
def givenText (i : Item) : TextProperty → Option Text
  | .itemClass => i.itemClass
  | .baseType => if i.baseType = [] then none else some i.baseType
  | .rarity => i.rarity

/-- The options that describe an item. -/
def options (i : Item) : ItemOptions := { texts := i.givenText, numbers := i.numbers }

/-- The argument that gives a property, if it is known. -/
def argument? (i : Item) : Property → Option PreviewArgument
  | .text p => (i.givenText p).map (.text p)
  | .number p => (i.numbers p).map (.number p)

/-- The arguments that describe an item. -/
def arguments (i : Item) : List PreviewArgument := Property.all.filterMap i.argument?

/-- The arguments behind the command: the filter, the item, and flags. -/
def allArguments (i : Item) (file : Text) (fs : List FlagName) : List PreviewArgument :=
  .filter file :: (i.arguments ++ fs.map .flag)

/-- What a level holds behind all arguments. -/
def level (i : Item) (file : Text) (fs : List FlagName) : Level PreviewArguments :=
  { flags := .ofNames fs, own := { filter := some file, item := i.options } }

variable {i : Item} {a : PreviewArgument} {file : Text} {fs : List FlagName}

theorem applyTo_options (i : Item) : i.options.applyTo {} = i := by
  apply Item.ext_numbers
  · by_cases h : i.baseType = [] <;> simp [ItemOptions.applyTo, options, givenText, h]
  · simp [ItemOptions.applyTo, options, givenText]
  · simp [ItemOptions.applyTo, options, givenText]
  · simp [ItemOptions.applyTo, options]

theorem slot_of_argument? {p : Property} (h : i.argument? p = some a) : a.slot = .property p := by
  cases p <;> obtain ⟨_, -, rfl⟩ := Option.map_eq_some_iff.mp h <;> rfl

theorem mem_arguments : a ∈ i.arguments ↔ ∃ p, i.argument? p = some a := by
  simp [arguments, Property.mem_all]

/-- The arguments of an item fill different slots. -/
theorem nodup_slot_arguments (i : Item) : (i.arguments.map slot).Nodup := by
  rw [arguments, List.map_filterMap]
  refine .filterMap (fun p q s hp hq => ?_) (by decide)
  obtain ⟨a, ha, rfl⟩ := Option.map_eq_some_iff.mp hp
  obtain ⟨b, hb, same⟩ := Option.map_eq_some_iff.mp hq
  rw [slot_of_argument? ha, slot_of_argument? hb] at same
  exact (Slot.property.inj same).symm

theorem exists_property_of_mem_slots {s : Slot} (h : s ∈ i.arguments.map slot) :
    ∃ p, s = .property p := by
  obtain ⟨a, ha, rfl⟩ := List.mem_map.mp h
  obtain ⟨p, hp⟩ := mem_arguments.mp ha
  exact ⟨p, slot_of_argument? hp⟩

theorem nodup_slot_allArguments (distinct : fs.Nodup) (i : Item) (file : Text) :
    ((i.allArguments file fs).map slot).Nodup := by
  have flags : ((fs.map .flag).map slot).Nodup := by
    rw [List.map_map]
    exact distinct.map fun f g h => by simpa [slot] using h
  rw [allArguments, List.map_cons, List.nodup_cons, List.map_append]
  refine ⟨fun h => ?_, i.nodup_slot_arguments.append flags fun s h hf => ?_⟩
  · rcases List.mem_append.mp h with h | h
    · obtain ⟨p, hp⟩ := exists_property_of_mem_slots h
      exact nomatch hp
    · simp [slot] at h
  · obtain ⟨p, rfl⟩ := exists_property_of_mem_slots h
    simp [slot] at hf

theorem content_level_property (p : Property) :
    (Slot.property p).content (i.level file fs) = i.argument? p := by
  cases p <;> rfl

/-- The level behind all arguments holds exactly these arguments. -/
theorem content_level {s : Slot} :
    s.content (i.level file fs) = some a ↔ a ∈ i.allArguments file fs ∧ a.slot = s := by
  simp only [allArguments, List.mem_cons, List.mem_append, List.mem_map, mem_arguments]
  constructor
  · intro h
    cases s with
    | filter =>
      obtain rfl := Option.some.inj h
      exact ⟨.inl rfl, rfl⟩
    | property p =>
      rw [content_level_property] at h
      exact ⟨.inr (.inl ⟨p, h⟩), slot_of_argument? h⟩
    | flag f =>
      obtain ⟨given, e⟩ := Option.ite_none_right_eq_some.mp h
      obtain rfl := Option.some.inj e
      rw [level, Flags.isGiven_ofNames, List.contains_iff_mem] at given
      exact ⟨.inr (.inr ⟨f, given, rfl⟩), rfl⟩
  · rintro ⟨rfl | ⟨p, hp⟩ | ⟨f, hf, rfl⟩, rfl⟩
    · rfl
    · rw [slot_of_argument? hp, content_level_property, hp]
    · have given : f.isGiven (Flags.ofNames fs) = true := by
        rw [Flags.isGiven_ofNames, List.contains_iff_mem]
        exact hf
      exact if_pos given

theorem isPlain_of_mem (hne : file ≠ []) (hyphen : file.head? ≠ some '-')
    (h : a ∈ i.allArguments file fs) : a.IsPlain := by
  cases a with
  | filter f =>
    have held : some (filter file) = some (filter f) := content_level.mpr ⟨h, rfl⟩
    obtain rfl := filter.inj (Option.some.inj held)
    exact ⟨hne, hyphen⟩
  | _ => trivial

/-- In any order, the arguments fill the slots of a level in the same way. -/
theorem foldl_give_of_perm {as : List PreviewArgument} (distinct : fs.Nodup)
    (perm : as.Perm (i.allArguments file fs)) :
    as.foldl (fun l a => a.give l) { own := {} } = i.level file fs := by
  have slots : (as.map slot).Nodup :=
    (perm.map slot).nodup_iff.mpr (nodup_slot_allArguments distinct i file)
  refine ext_content (file_foldl as _) fun s => ?_
  -- a slot is filled by its argument, or by none on both sides
  by_cases h : s ∈ as.map slot
  · obtain ⟨a, ha, rfl⟩ := List.mem_map.mp h
    rw [content_foldl_of_mem slots ha, content_level.mpr ⟨perm.mem_iff.mp ha, rfl⟩]
  · rw [content_foldl_of_not_mem h, content_empty, eq_comm, Option.eq_none_iff_forall_ne_some]
    intro a ha
    obtain ⟨mem, rfl⟩ := content_level.mp ha
    exact h (List.mem_map_of_mem (perm.mem_iff.mpr mem))

end Item

/-! ### Whole command lines -/

namespace CommandLine

variable {fs : List FlagName}

/-- Flags pass the check unless two of them exclude each other. -/
theorem checked_ofNames {α : Type} (own : α)
    (compatible : ¬(FlagName.verbose ∈ fs ∧ FlagName.quiet ∈ fs)) :
    Level.checked { flags := .ofNames fs, own } = .ok { flags := .ofNames fs, own } := by
  refine if_neg fun h => compatible ?_
  rw [Bool.and_eq_true] at h
  exact ⟨List.contains_iff_mem.mp h.2, List.contains_iff_mem.mp h.1⟩

/-- Flags without repetition in front of a command are those of the program. -/
theorem readLevels_program {word : Text} {rest : List Text} {name : CommandName} {flags : Flags}
    {command : Command} (hw : CommandName.program.below? word = some name) (distinct : fs.Nodup)
    (compatible : ¬(FlagName.verbose ∈ fs ∧ FlagName.quiet ∈ fs))
    (below : readCommand name rest = .ok (flags, command)) :
    readLevels .program readCommand (fs.map FlagName.argument ++ word :: rest) =
      .ok ((Flags.ofNames fs).union flags, some command) := by
  have scanned : (Level.grammar .program []).scan ((Level.grammar .program []).start { own := () })
      (fs.map FlagName.argument ++ word :: rest) =
      .ok ({ flags := .ofNames fs, own := () }, some (word, rest)) := by
    rw [Grammar.start, Level.scan_flags FlagName.long?_name (fun f => by cases f <;> rfl) distinct
      (fun f _ => by cases f <;> rfl),
      Grammar.scan_command rest (by simp [Level.grammar, hw]) rfl rfl]
    simp [Flags.union]
  simp only [readLevels, scanned, bind, Except.bind, Option.bind, hw, Option.map_some, below,
    checked_ofNames () compatible]
  rfl

/-- The arguments behind the command are read in any order. -/
theorem readCommand_preview {i : Item} {file : Text} {as : List PreviewArgument} (hne : file ≠ [])
    (hyphen : file.head? ≠ some '-') (distinct : fs.Nodup)
    (compatible : ¬(FlagName.verbose ∈ fs ∧ FlagName.quiet ∈ fs))
    (perm : as.Perm (i.allArguments file fs)) :
    readCommand .preview (as.map PreviewArgument.spelled) =
      .ok (.ofNames fs, .preview (some file) i.options) := by
  have plain : ∀ a ∈ as, a.IsPlain := fun a ha =>
    Item.isPlain_of_mem hne hyphen (perm.mem_iff.mp ha)
  have scanned := PreviewArgument.scan_spelled (p := previewGrammar.start { own := {} })
    ⟨Progress.gives_of_nothing _ _, rfl⟩ plain
    ((perm.map PreviewArgument.slot).nodup_iff.mpr (i.nodup_slot_allArguments distinct file))
    fun a _ => PreviewArgument.content_empty a.slot
  rw [Item.foldl_give_of_perm distinct perm] at scanned
  simp only [readCommand, lastLevel, scanned, bind, Except.bind, Item.level,
    checked_ofNames _ compatible]
  rfl

end CommandLine

namespace Invocation

/-- **Every item can be given on the command line, in any order.** Behind the command stand the file
of the filter, an option with its value for each known property of the item, and flags, all in any
order; other flags stand in front of it. The arguments are read without a fault, and they describe
the item and the filter. -/
theorem ofArguments_of_perm_arguments (i : Item) {file : Text} (hne : file ≠ [])
    (hyphen : file.head? ≠ some '-') {before after : List FlagName}
    (distinct : (before ++ after).Nodup)
    (compatible : ¬(FlagName.verbose ∈ before ++ after ∧ FlagName.quiet ∈ before ++ after))
    {order : List PreviewArgument}
    (perm : order.Perm (.filter file :: (i.arguments ++ after.map .flag))) :
    ∃ o : ItemOptions,
      ofArguments (before.map FlagName.argument ++
          ("preview" : Text) :: order.map PreviewArgument.spelled) =
        .ok ⟨.ofNames (before ++ after), some (.preview (some file) o)⟩ ∧
      (∀ s : Surroundings, s.item o = .ok i) ∧
      ∀ settings, Surroundings.filterPath (some file) settings = .ok file := by
  refine ⟨i.options, ?_, fun s => congrArg Except.ok i.applyTo_options, fun _ => rfl⟩
  obtain ⟨distinctBefore, distinctAfter, -⟩ := List.nodup_append.mp distinct
  have below := CommandLine.readCommand_preview hne hyphen distinctAfter
    (fun h => compatible (h.imp (List.mem_append_right _) (List.mem_append_right _))) perm
  have named : CommandName.program.below? "preview" = some .preview := by decide
  have read := CommandLine.readLevels_program named distinctBefore
    (fun h => compatible (h.imp (List.mem_append_left _) (List.mem_append_left _))) below
  rw [Invocation.ofArguments, read, Flags.union_ofNames]
  rfl

/-- A bow whose texts could be taken for arguments, given with its properties shuffled. -/
theorem ofArguments_of_perm_arguments_shuffledBow :
    ∃ o : ItemOptions,
      ofArguments ["--json", "preview", "--quality=20", "--no-color", "--class=Bows = -1",
          "my.filter", "--item-level=4294967295", "--verbose", "--base-type=--Short Bow"] =
        .ok ⟨⟨true, false, true, true⟩, some (.preview (some "my.filter") o)⟩ ∧
      (∀ s : Surroundings, s.item o =
        .ok { baseType := "--Short Bow", itemClass := some "Bows = -1",
              numbers := fun
                | .quality => some 20
                | .itemLevel => some 4294967295
                | _ => none }) ∧
      ∀ settings, Surroundings.filterPath (some "my.filter") settings = .ok "my.filter" :=
  @ofArguments_of_perm_arguments _ "my.filter" (by decide) (by decide) [.json] [.noColor, .verbose]
    (by decide) (by decide)
    [.number .quality 20, .flag .noColor, .text .itemClass "Bows = -1", .filter "my.filter",
      .number .itemLevel 4294967295, .flag .verbose, .text .baseType "--Short Bow"]
    (by decide)

end Invocation

end LootFilter
