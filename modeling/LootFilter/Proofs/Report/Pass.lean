import LootFilter.Proofs.Filter.Sections
import LootFilter.Report.Check

/-!
# The pass of a check

A check goes over the lines of a filter and keeps a place: in front of the first header, or in a
block with or without a condition. What it finds at a line depends on the place, the line and its
number; the place behind the line depends on the place and the line alone. So the findings of a
check are those along its lines, one line after the other, and at most one more at the end.

## Main definitions

* `Check.Place.findings`, `Check.Place.next` — what is found at a line, and the place behind it
* `Check.findingsFrom`, `Check.Place.behind` — the same for some lines
* `Problem.isStructural` — whether a finding is about the order of lines

## Main results

* `Filter.check_eq` — the findings of a check, along the lines and at the end
* `Check.findingsFrom_append` — lines one after the other are checked one after the other
* `Check.aboutArguments_lineProblems` — the arguments of a line have findings of their own
-/

namespace LootFilter

namespace Check

namespace Place

/-- The findings at a line. -/
def findings (p : Place) (number : Nat) (raw : Text) : List Diagnostic :=
  if Text.withoutComment raw = [] then []
  else if Line.isHeader raw then p.atHeader number
  else p.atLine number ++ (lineProblems (Text.withoutComment raw)).map (⟨number, ·⟩)

/-- The place behind a line. -/
def next (p : Place) (raw : Text) : Place :=
  if Line.isHeader raw then .inside false else p.after (Text.withoutComment raw)

/-- The place behind some lines. -/
def behind (p : Place) (ls : List Text) : Place := ls.foldl next p

variable {p : Place} {raw : Text} {d : Diagnostic}

theorem behind_append (p : Place) (ls ms : List Text) :
    p.behind (ls ++ ms) = (p.behind ls).behind ms :=
  List.foldl_append

theorem after_nil (p : Place) : p.after [] = p := by
  cases p with
  | outside => rfl
  | inside hasCondition => exact congrArg Place.inside (Bool.or_false _)

theorem mem_atHeader_iff {number : Nat} :
    d ∈ p.atHeader number ↔
      p.lacksCondition = true ∧ d = ⟨number - 1, .previousBlockEmpty⟩ := by
  unfold atHeader
  split_ifs with h <;> simp [h]

theorem mem_atEnd_iff {lastLine : Nat} :
    d ∈ p.atEnd lastLine ↔
      p.lacksCondition = true ∧ d = ⟨lastLine, .finalBlockEmpty⟩ := by
  unfold atEnd
  split_ifs with h <;> simp [h]

theorem mem_atLine_iff {number : Nat} :
    d ∈ p.atLine number ↔ p = .outside ∧ d = ⟨number, .outsideBlock⟩ := by
  unfold atLine
  split_ifs with h <;> simp [h]

theorem findings_of_blank (h : Text.withoutComment raw = []) (number : Nat) :
    p.findings number raw = [] :=
  if_pos h

theorem findings_of_isHeader (h : Line.isHeader raw = true) (number : Nat) :
    p.findings number raw = p.atHeader number := by
  -- blank lines are passed over first, but a header is not one of them
  have hblank : Text.withoutComment raw ≠ [] := by
    intro hblank
    simp [Line.isHeader_of_blank hblank] at h
  rw [findings, if_neg hblank, if_pos h]

theorem next_of_blank (h : Text.withoutComment raw = []) : p.next raw = p := by
  rw [next, Line.isHeader_of_blank h, if_neg Bool.false_ne_true, h, after_nil]

theorem next_of_isHeader (h : Line.isHeader raw = true) : p.next raw = .inside false :=
  if_pos h

end Place

/-- The findings along the lines behind line `n`, without the one at the end. -/
def findingsFrom (place : Place) (n : Nat) : List Text → List Diagnostic
  | [] => []
  | raw :: rest => place.findings (n + 1) raw ++ findingsFrom (place.next raw) (n + 1) rest

theorem length_step (n : Nat) (raw : Text) (rest : List Text) :
    n + (raw :: rest).length = n + 1 + rest.length := by
  rw [List.length_cons]
  omega

/-- The pass over some lines: what is found along them, and what is found at the end. -/
theorem diagnosticsFrom_eq (place : Place) (n : Nat) (ls : List Text) :
    diagnosticsFrom place n (ls.zipIdx (n + 1)) =
      findingsFrom place n ls ++ (place.behind ls).atEnd (n + ls.length) := by
  induction ls generalizing place n with
  | nil => rfl
  | cons raw rest ih =>
    have hsplit : findingsFrom place n (raw :: rest) ++
        (place.behind (raw :: rest)).atEnd (n + (raw :: rest).length) =
          place.findings (n + 1) raw ++
            diagnosticsFrom (place.next raw) (n + 1) (rest.zipIdx (n + 1 + 1)) := by
      rw [ih, findingsFrom, List.append_assoc, length_step n raw rest]
      rfl
    rw [hsplit, List.zipIdx_cons, diagnosticsFrom]
    -- a blank line has no finding and leaves the place; any other line is a header or it is not
    by_cases hblank : Text.withoutComment raw = []
    · rw [if_pos hblank, Place.findings_of_blank hblank, Place.next_of_blank hblank]
      rfl
    · rw [if_neg hblank, Place.findings, if_neg hblank, Place.next, Line.isHeader]
      split_ifs <;> simp

theorem findingsFrom_append (place : Place) (n : Nat) (ls ms : List Text) :
    findingsFrom place n (ls ++ ms) =
      findingsFrom place n ls ++ findingsFrom (place.behind ls) (n + ls.length) ms := by
  induction ls generalizing place n with
  | nil => rfl
  | cons raw rest ih =>
    rw [List.cons_append, findingsFrom, ih, length_step n raw rest, findingsFrom, List.append_assoc]
    rfl

end Check

/-! ### Findings by cause -/

/-- Whether a finding is about how the lines of a filter follow one another. -/
def Problem.isStructural : Problem → Bool
  | .outsideBlock | .previousBlockEmpty | .finalBlockEmpty => true
  | _ => false

namespace Check

variable {line keyword rest : Text}

/-- Whether none of some findings is about the lines around. -/
def AboutArguments (ps : List Problem) : Prop := ∀ q ∈ ps, q.isStructural = false

@[simp] theorem aboutArguments_nil : AboutArguments [] := by
  simp [AboutArguments]

@[simp] theorem aboutArguments_cons_iff {q : Problem} {ps : List Problem} :
    AboutArguments (q :: ps) ↔ q.isStructural = false ∧ AboutArguments ps :=
  List.forall_mem_cons

@[simp] theorem aboutArguments_append_iff {ps qs : List Problem} :
    AboutArguments (ps ++ qs) ↔ AboutArguments ps ∧ AboutArguments qs :=
  List.forall_mem_append

theorem aboutArguments_numberProblems (p : NumberProperty) :
    AboutArguments (numberProblems p rest) := by
  unfold numberProblems
  split
  · rename_i symbol value extra _
    have hoperand : AboutArguments (operandProblems p symbol value) := by
      unfold operandProblems
      rw [aboutArguments_append_iff]
      constructor
      · split_ifs <;> simp [Problem.isStructural]
      · split
        · split_ifs <;> simp [Problem.isStructural]
        · simp [Problem.isStructural]
    rw [aboutArguments_append_iff]
    refine ⟨hoperand, ?_⟩
    split_ifs <;> simp [Problem.isStructural]
  · simp [Problem.isStructural]

theorem aboutArguments_colorProblems (d : ColorDirective) :
    AboutArguments (colorProblems d rest) := by
  unfold colorProblems
  rw [aboutArguments_append_iff]
  constructor
  · split_ifs <;> simp [Problem.isStructural]
  · intro q hq
    obtain ⟨word, -, rfl⟩ := List.mem_map.1 hq
    rfl

theorem aboutArguments_fontSizeProblems : AboutArguments (fontSizeProblems rest) := by
  unfold fontSizeProblems
  split
  · split_ifs <;> simp [Problem.isStructural]
  · simp [Problem.isStructural]

theorem aboutArguments_beamProblems : AboutArguments (beamProblems rest) := by
  unfold beamProblems
  split
  · simp [Problem.isStructural]
  · split_ifs <;> simp [Problem.isStructural]

theorem aboutArguments_propertyProblems (p : Property) :
    AboutArguments (propertyProblems p rest) := by
  unfold propertyProblems
  split
  · exact aboutArguments_nil
  · unfold textProblems
    dsimp only
    split_ifs <;> simp [Problem.isStructural]
  · exact aboutArguments_numberProblems _

theorem aboutArguments_keywordProblems : AboutArguments (keywordProblems keyword rest) := by
  unfold keywordProblems
  split_ifs
  · simp [Problem.isStructural]
  · simp [Problem.isStructural]
  · exact aboutArguments_fontSizeProblems
  · exact aboutArguments_beamProblems
  · split
    · exact aboutArguments_colorProblems _
    · split
      · exact aboutArguments_propertyProblems _
      · exact aboutArguments_nil

/-- What is found on a line alone is not about the lines around it. -/
theorem aboutArguments_lineProblems : AboutArguments (lineProblems line) := by
  unfold lineProblems
  split
  · exact aboutArguments_keywordProblems
  · exact aboutArguments_nil

/-- The end of a filter is told only at the end. -/
theorem ne_finalBlockEmpty_of_mem_findingsFrom {place : Place} {n : Nat} {ls : List Text}
    {d : Diagnostic} (h : d ∈ findingsFrom place n ls) : d.problem ≠ .finalBlockEmpty := by
  induction ls generalizing place n with
  | nil => simp [findingsFrom] at h
  | cons raw rest ih =>
    rcases List.mem_append.1 h with h | h
    · -- the structural findings at a line are those at a header and those outside of blocks
      unfold Place.findings at h
      split_ifs at h
      · exact absurd h List.not_mem_nil
      · obtain ⟨-, rfl⟩ := Place.mem_atHeader_iff.1 h
        simp
      · rcases List.mem_append.1 h with h | h
        · obtain ⟨-, rfl⟩ := Place.mem_atLine_iff.1 h
          simp
        · obtain ⟨q, hq, rfl⟩ := List.mem_map.1 h
          rintro rfl
          exact absurd (aboutArguments_lineProblems _ hq) (by decide)
    · exact ih h

end Check

/-- The findings of a check: along the lines, and at the end. -/
theorem Filter.check_eq (filter : Text) :
    (check filter).diagnostics =
      Check.findingsFrom .outside 0 (Text.lines filter) ++
        (Check.Place.outside.behind (Text.lines filter)).atEnd (Text.lines filter).length := by
  have h := Check.diagnosticsFrom_eq .outside 0 (Text.lines filter)
  rwa [Nat.zero_add, Nat.zero_add] at h

end LootFilter
