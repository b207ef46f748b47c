import LootFilter.Proofs.FileTree.Writing
import LootFilter.Proofs.Program.Failing
import LootFilter.Proofs.Settings.File
import LootFilter.Proofs.Settings.Values

/-!
# Assignments of settings, run after run

Every run that sets a setting reads the file for settings, changes one of them and writes all of
them back. Nothing is lost on the way: the file is read back as what was written, and the run leaves
a file that the next one can read and write. A run that refuses its assignment leaves the files as
they are. So after any number of runs each setting has the value of the last run that was not
refused, or the value that it had at first.

All that is asked for is a place for the settings, and that at first they can be read there, if
there are any, and can be written. That this stays so is proved here.

## Main definitions

* `Assignment`, `Surroundings.afterAll` — runs that set a setting
* `Surroundings.Refuses` — why an assignment may be refused
* `Surroundings.HasUsableFile` — the file for settings can be read and written
* `Settings.HoldsLast` — settings with the values that were given last

## Main results

* `Surroundings.assignment_cases` — what one run does
* `Surroundings.outcomes_and_settings_afterAll` — what any number of runs do
-/

namespace LootFilter

/-- A run that gives a value to a setting. -/
structure Assignment where
  /-- The flags of the run. -/
  flags : Flags := {}
  /-- The name of the key. -/
  key : Text
  /-- The word for the value. -/
  value : Text
  deriving Repr, DecidableEq

/-- The command of the run. -/
def Assignment.invocation (a : Assignment) : Invocation :=
  ⟨a.flags, some (.settings (some (.set a.key a.value)))⟩

/-- The last of some assignments to a key. -/
def SettingKey.lastOf? (k : SettingKey) (assignments : List Assignment) : Option Assignment :=
  (assignments.filter fun a => a.key = k.name).getLast?

/-- Settings that have the values that were given last, and for keys that were given none what some
settings have. -/
def Settings.HoldsLast (initial : Settings) (assignments : List Assignment) (final : Settings) :
    Prop :=
  ∀ k : SettingKey,
    match k.lastOf? assignments with
    | some a => ∃ v, k.valueOf? a.value = some v ∧ final.get? k = some v
    | none => final.get? k = initial.get? k

namespace Surroundings

variable {s : Surroundings} {a : Assignment} {path : Text} {reason : SettingsFailure}

/-- What a run leaves to the next one. -/
def after (s : Surroundings) (a : Assignment) : Surroundings :=
  { s with files := (s.run a.invocation).files }

/-- What several runs leave, one after the other. -/
def afterAll (s : Surroundings) (assignments : List Assignment) : Surroundings :=
  assignments.foldl after s

/-- Why a run fails, if it does. -/
def failureOf? (s : Surroundings) (a : Assignment) : Option Failure :=
  (s.run a.invocation).reply.failure

/-- The assignments whose runs do not fail, one run after the other. -/
def accepted (s : Surroundings) : List Assignment → List Assignment
  | [] => []
  | a :: later =>
    if (s.failureOf? a).isNone then a :: (s.after a).accepted later else (s.after a).accepted later

/-- Why an assignment may be refused: the file holds no settings, or the key has no such name, or
the word stands for no value of the key. -/
inductive Refuses (s : Surroundings) (a : Assignment) : SettingsFailure → Prop
  | malformed {path content : Text} (hpath : s.settingsPath = .ok path)
      (hread : s.files.read path = .ok content) (hcontent : Settings.ofFile? content = none) :
      Refuses s a .malformed
  | unknownKey (hkey : ∀ k : SettingKey, a.key ≠ k.name) :
      Refuses s a (.rejected (.unknownKey a.key))
  | invalidBoolean {k : SettingKey} (hkey : a.key = k.name) (hvalue : k.valueOf? a.value = none) :
      Refuses s a (.rejected (.invalidBoolean a.value))

/-- The settings have a place, and the file there can be read, if there is one, and written. -/
structure HasUsableFile (s : Surroundings) (path : Text) : Prop where
  settingsPath : s.settingsPath = .ok path
  readable : s.files.isPresent path = true → ∃ content, s.files.read path = .ok content
  writable : s.files.IsWritable path

/-! ### One run -/

theorem files_run_invocation (s : Surroundings) (a : Assignment) :
    (s.run a.invocation).files =
      (s.setSetting (s.presentation a.invocation) a.key a.value).files :=
  (files_and_failure_run_set rfl).1

theorem failureOf?_eq (s : Surroundings) (a : Assignment) :
    s.failureOf? a =
      (s.setSetting (s.presentation a.invocation) a.key a.value).reply.failure :=
  (files_and_failure_run_set rfl).2

/-- Settings that cannot be read stand in a file that holds none. -/
theorem HasUsableFile.malformed (h : s.HasUsableFile path) {f : Failure}
    (hf : s.settings = .error f) : f = .settings .malformed ∧ s.Refuses a .malformed := by
  rw [settings_of_settingsPath h.settingsPath, readSettings] at hf
  split at hf
  · next hpresent =>
    obtain ⟨content, hread⟩ := h.readable hpresent
    simp only [hread] at hf
    cases hcontent : Settings.ofFile? content with
    | none =>
      simp only [hcontent, Except.error.injEq] at hf
      exact ⟨hf.symm, .malformed h.settingsPath hread hcontent⟩
    | some settings => simp [hcontent] at hf
  · exact absurd hf (by simp)

theorem not_refuses_malformed {settings : Settings} (h : s.settings = .ok settings) :
    ¬ s.Refuses a .malformed := by
  intro hrefuses
  cases hrefuses with
  | malformed hpath hread hcontent =>
    rw [settings_of_settingsPath hpath] at h
    simp [readSettings, FileTree.isPresent_of_read hread, hread, hcontent] at h

/-- Settings that have been saved are the settings from then on. -/
theorem HasUsableFile.save (h : s.HasUsableFile path) (settings : Settings) :
    ∃ files, s.saveSettings settings = (files, none) ∧
      ({ s with files } : Surroundings).settings = .ok settings ∧
      ({ s with files } : Surroundings).HasUsableFile path := by
  obtain ⟨files, hwrite⟩ := h.writable.write settings.toFile
  have hparents : s.files.createParents path = ((s.files.createParents path).1, none) :=
    Prod.ext rfl h.writable.createParents
  have hread := FileTree.read_of_write hwrite
  -- the place does not depend on the files
  have hpath : ({ s with files } : Surroundings).settingsPath = .ok path := h.settingsPath
  refine ⟨files, ?_, ?_, hpath, fun _ => ⟨_, hread⟩, h.writable.after_write hwrite⟩
  · simp only [saveSettings, h.settingsPath]
    rw [hparents]
    simp only [hwrite]
  · rw [settings_of_settingsPath hpath]
    simp [readSettings, FileTree.isPresent_of_write hwrite, hread, Settings.ofFile?_toFile]

/-- A run that is not refused sets one setting. -/
structure Accepts (s : Surroundings) (a : Assignment) (k : SettingKey) (v : SettingValue)
    (settings settings' : Settings) : Prop where
  key_eq : a.key = k.name
  value_eq : k.valueOf? a.value = some v
  before : s.settings = .ok settings
  failure : s.failureOf? a = none
  after : (s.after a).settings = .ok settings'
  updated : settings.IsUpdated k v settings'

/-- What a run does: it refuses the assignment, for a reason, and leaves the files as they are, or
it sets one setting. -/
theorem assignment_cases (h : s.HasUsableFile path) (a : Assignment) :
    (∃ reason, s.Refuses a reason ∧ s.failureOf? a = some (.settings reason) ∧
        (s.run a.invocation).files = s.files) ∨
      ((∃ k v settings settings', s.Accepts a k v settings settings') ∧
        (s.after a).HasUsableFile path) := by
  have hpath := h.settingsPath
  rw [failureOf?_eq, files_run_invocation]
  -- the run looks at the file first, then at the key, then at the word
  cases hsettings : s.settings with
  | error f =>
    obtain ⟨rfl, hrefuses⟩ := h.malformed (a := a) hsettings
    refine Or.inl ⟨_, hrefuses, ?_⟩
    simp [setSetting, hsettings, Reply.failed]
  | ok settings =>
    rcases settings.set_cases a.key a.value with
      ⟨k, v, settings', hkey, hvalue, hset, hupdated⟩ | ⟨k, hkey, hvalue, hset⟩ | ⟨hkey, hset⟩
    · obtain ⟨files, hsave, hafter, husable⟩ := h.save settings'
      have hrun : s.setSetting (s.presentation a.invocation) a.key a.value =
          ⟨settingSet (s.presentation a.invocation) path a.key a.value, files⟩ := by
        simp only [setSetting, hsettings, hpath, hset, hsave]
      have hs : s.after a = { s with files } := by
        rw [Surroundings.after, files_run_invocation, hrun]
      refine Or.inr ⟨⟨k, v, settings, settings', hkey, hvalue, hsettings, ?_, ?_, hupdated⟩, ?_⟩
      · rw [failureOf?_eq, hrun]
        rfl
      · rw [hs, hafter]
      · rw [hs]
        exact husable
    · refine Or.inl ⟨_, .invalidBoolean hkey hvalue, ?_⟩
      simp [setSetting, hsettings, hpath, hset, Reply.failed]
    · refine Or.inl ⟨_, .unknownKey hkey, ?_⟩
      simp [setSetting, hsettings, hpath, hset, Reply.failed]

theorem Accepts.not_refuses {k : SettingKey} {v : SettingValue} {settings settings' : Settings}
    (h : s.Accepts a k v settings settings') (reason : SettingsFailure) : ¬ s.Refuses a reason := by
  intro hrefuses
  cases hrefuses with
  | malformed hpath hread hcontent =>
    exact not_refuses_malformed (a := a) h.before (.malformed hpath hread hcontent)
  | unknownKey hkey => exact hkey k h.key_eq
  | invalidBoolean hkey hvalue =>
    obtain rfl := SettingKey.name_inj (h.key_eq.symm.trans hkey)
    exact absurd (h.value_eq.symm.trans hvalue) (by simp)

/-! ### Any number of runs -/

theorem after_eq_self (h : (s.run a.invocation).files = s.files) : s.after a = s := by
  rw [after, h]

theorem HasUsableFile.after (h : s.HasUsableFile path) (a : Assignment) :
    (s.after a).HasUsableFile path := by
  rcases assignment_cases h a with ⟨reason, -, -, hfiles⟩ | ⟨-, husable⟩
  · rw [after_eq_self hfiles]
    exact h
  · exact husable

theorem HasUsableFile.afterAll (h : s.HasUsableFile path) (assignments : List Assignment) :
    (s.afterAll assignments).HasUsableFile path := by
  induction assignments generalizing s with
  | nil => exact h
  | cons a assignments ih => exact ih (h.after a)

theorem accepted_cons_of_failure (later : List Assignment) (h : (s.failureOf? a).isSome = true) :
    s.accepted (a :: later) = (s.after a).accepted later := by
  obtain ⟨f, hf⟩ := Option.isSome_iff_exists.mp h
  simp [accepted, hf]

theorem accepted_cons (later : List Assignment) (h : s.failureOf? a = none) :
    s.accepted (a :: later) = a :: (s.after a).accepted later := by
  simp [accepted, h]

end Surroundings

namespace SettingKey

variable {k : SettingKey} {a b : Assignment} {later : List Assignment}

theorem lastOf?_cons_of_some (h : k.lastOf? later = some b) :
    k.lastOf? (a :: later) = some b := by
  unfold lastOf? at h ⊢
  rw [List.filter_cons]
  split
  · rw [List.getLast?_cons, h, Option.getD_some]
  · exact h

theorem lastOf?_cons_of_none (h : k.lastOf? later = none) :
    k.lastOf? (a :: later) = if a.key = k.name then some a else none := by
  unfold lastOf? at h ⊢
  rw [List.filter_cons]
  by_cases hkey : a.key = k.name
  · simp [hkey, List.getLast?_cons, h]
  · simp [hkey, h]

end SettingKey

namespace Settings

theorem HoldsLast.nil (s : Settings) : s.HoldsLast [] s := fun _ => rfl

/-- An assignment in front counts for its key if no later one does. -/
theorem HoldsLast.cons {initial settings final : Settings} {a : Assignment} {k : SettingKey}
    {v : SettingValue} {later : List Assignment} (hkey : a.key = k.name)
    (hvalue : k.valueOf? a.value = some v) (hupdated : initial.IsUpdated k v settings)
    (h : settings.HoldsLast later final) : initial.HoldsLast (a :: later) final := by
  intro j
  have hj := h j
  cases hlast : j.lastOf? later with
  | some b =>
    -- the later one hides whatever stands in front
    rw [SettingKey.lastOf?_cons_of_some hlast]
    simpa only [hlast] using hj
  | none =>
    simp only [hlast] at hj
    rw [SettingKey.lastOf?_cons_of_none hlast]
    by_cases hjk : j = k
    · -- the one in front is the last one to its key
      subst hjk
      rw [if_pos hkey]
      exact ⟨v, hvalue, by rw [hj, hupdated.get?_self]⟩
    · have hne : a.key ≠ j.name := fun hname =>
        hjk (SettingKey.name_inj (hname.symm.trans hkey))
      rw [if_neg hne]
      exact hj.trans (hupdated.get?_of_ne hjk)

end Settings

namespace Surroundings

/-- After any number of runs the settings can be read, and have the values that were given last. -/
theorem exists_settings_afterAll {s : Surroundings} {path : Text} {initial : Settings}
    (h : s.HasUsableFile path) (hinitial : s.settings = .ok initial)
    (assignments : List Assignment) :
    ∃ final, (s.afterAll assignments).settings = .ok final ∧
      initial.HoldsLast (s.accepted assignments) final := by
  induction assignments generalizing s initial with
  | nil => exact ⟨initial, hinitial, .nil initial⟩
  | cons a later ih =>
    rcases assignment_cases h a with
      ⟨reason, -, hfailure, hfiles⟩ | ⟨⟨k, v, settings, settings', haccepts⟩, husable⟩
    · -- the next run finds what this one found
      have hsame := after_eq_self hfiles
      have hfails : (s.failureOf? a).isSome = true := by
        rw [hfailure]
        rfl
      rw [accepted_cons_of_failure later hfails, hsame]
      obtain ⟨final, hfinal, hholds⟩ := ih h hinitial
      refine ⟨final, ?_, hholds⟩
      rw [← hfinal, afterAll, afterAll, List.foldl_cons, hsame]
    · -- the next run starts from the updated settings
      obtain rfl : settings = initial := Except.ok.inj (haccepts.before.symm.trans hinitial)
      obtain ⟨final, hfinal, hholds⟩ := ih husable haccepts.after
      rw [accepted_cons later haccepts.failure]
      exact ⟨final, hfinal, .cons haccepts.key_eq haccepts.value_eq haccepts.updated hholds⟩

/-- Any number of runs, each of which sets a setting or refuses to, leave what they should. A run
fails only if it refuses, for one of three reasons, and then it leaves the files as they are. If the
settings could be read at first, they can be read in the end; each has the value of the last run
that set it, or the one that it had at first. -/
theorem outcomes_and_settings_afterAll (s : Surroundings) (path : Text) (h : s.HasUsableFile path)
    (assignments : List Assignment) :
    (∀ earlier a later, assignments = earlier ++ a :: later →
      let before := s.afterAll earlier
      let outcome := before.run a.invocation
      (outcome.reply.failure = none ∧ ∀ reason, ¬ before.Refuses a reason) ∨
        ∃ reason, before.Refuses a reason ∧
          outcome.reply.failure = some (.settings reason) ∧ outcome.files = before.files) ∧
      ∀ initial, s.settings = .ok initial →
        ∃ final, (s.afterAll assignments).settings = .ok final ∧
          initial.HoldsLast (s.accepted assignments) final := by
  refine ⟨?_, fun initial hinitial => exists_settings_afterAll h hinitial assignments⟩
  intro earlier a later _
  rcases assignment_cases (h.afterAll earlier) a with
    ⟨reason, hrefuses, hfailure, hfiles⟩ | ⟨⟨k, v, settings, settings', haccepts⟩, -⟩
  · exact Or.inr ⟨reason, hrefuses, hfailure, hfiles⟩
  · exact Or.inl ⟨haccepts.failure, haccepts.not_refuses⟩

/-- A file with two settings, in a directory of its own. -/
def twoSettings : Surroundings where
  «variables» := [("PF_CONFIG", "conf/pf.toml")]
  files := (({} : FileTree).insert ["conf"] .directory).insert ["conf", "pf.toml"]
    (.file (some "[validate]\nwarnings_as_errors = true\n[output]\njson = true\n"))

/-- An assignment to a name that is no key. -/
def sizeAssignment : Assignment := { key := "output.size", value := "3" }

/-- Between two assignments to one key, a name that is no key, a word that is no truth value, and a
path with quotes of both kinds. -/
def fiveAssignments : List Assignment :=
  [{ key := "output.color", value := "OFF" },
    sizeAssignment,
    { key := "output.json", value := "maybe" },
    { key := "preview.default_filter", value := "my \"best\" 'n\\7'" },
    { flags := { quiet := true }, key := "output.color", value := "yes" }]

theorem outcomes_and_settings_afterAll_fiveAssignments :
    twoSettings.HasUsableFile "conf/pf.toml" ∧
      twoSettings.settings = .ok { json := some true, warningsAsErrors := some true } ∧
      (∃ before, before = twoSettings.afterAll [{ key := "output.color", value := "OFF" }] ∧
        ∃ reason, (before.run sizeAssignment.invocation).reply.failure = some (.settings reason) ∧
          (before.run sizeAssignment.invocation).files = before.files) ∧
      ∃ final, (twoSettings.afterAll fiveAssignments).settings = .ok final ∧
        final.get? .color = some (.boolean true) ∧ final.get? .json = some (.boolean true) ∧
        final.get? .warningsAsErrors = some (.boolean true) ∧
        final.get? .defaultFilter = some (.text "my \"best\" 'n\\7'") := by
  have husable : twoSettings.HasUsableFile "conf/pf.toml" :=
    ⟨rfl, fun _ => ⟨_, rfl⟩, ⟨by decide +kernel, fun _ => ⟨_, rfl⟩⟩⟩
  have hinitial : twoSettings.settings =
      .ok { json := some true, warningsAsErrors := some true } := rfl
  have haccepted : twoSettings.accepted fiveAssignments =
      [{ key := "output.color", value := "OFF" },
        { key := "preview.default_filter", value := "my \"best\" 'n\\7'" },
        { flags := { quiet := true }, key := "output.color", value := "yes" }] := by
    decide +kernel
  obtain ⟨hruns, hsettings⟩ := outcomes_and_settings_afterAll twoSettings _ husable fiveAssignments
  obtain ⟨final, hfinal, hholds⟩ := hsettings _ hinitial
  rw [haccepted] at hholds
  refine ⟨husable, hinitial, ⟨_, rfl, ?_⟩, final, hfinal, ?_, hholds .json,
    hholds .warningsAsErrors, ?_⟩
  · have hkey : ∀ k : SettingKey, sizeAssignment.key ≠ k.name := by
      intro k
      cases k <;> decide
    rcases hruns [_] sizeAssignment _ rfl with ⟨-, hnone⟩ | ⟨reason, -, hfailure, hfiles⟩
    · exact absurd (.unknownKey hkey) (hnone _)
    · exact ⟨reason, hfailure, hfiles⟩
  · obtain ⟨v, hv, hget⟩ := hholds .color
    rw [hget, ← hv]
    decide +kernel
  · obtain ⟨v, hv, hget⟩ := hholds .defaultFilter
    rw [hget, ← hv]
    decide +kernel

end Surroundings

end LootFilter
