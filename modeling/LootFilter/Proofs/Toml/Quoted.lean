import LootFilter.Toml.Quoted
import Mathlib.Tactic.SplitIfs

/-!
# Texts in quotes are read back

Whatever characters a text has, it is read back from the quotes that it was written in. Each of the
four ways of quoting has its own argument. Between double quotes a character is spelled by itself or
by an escape, and both readers take one spelling after the other. Between single quotes nothing is
escaped, so the text itself must not end the reading: it has no single quote, or, between three of
them, no run of more than two. In a text of several lines the last quotes of the text stand right in
front of the closing ones, which is why the readers are followed with the quotes that they have met
but not yet taken.

## Main definitions

* `Toml.Spells` — how a character may stand between double quotes
* `Toml.RunsWithin` — the runs of a character have a limit

## Main results

* `Toml.basicFrom_escapedBasic`, `Toml.longBasicFrom_escapedBasic` — double quotes
* `Toml.literalFrom_append`, `Toml.longLiteralFrom_append` — single quotes
* `Toml.readQuoted?_quote` — a text in quotes is read back
-/

namespace LootFilter.Toml

open Text (ne_of_holds)

variable {lineFeeds : Bool} {c d : Char} {before w t rest : Text} {n run best : Nat}

/-! ### Characters -/

theorem isPlain_of_not_control (hlow : 0x20 ≤ c.toNat) (hdelete : c ≠ '\x7f') :
    isPlain c = true := by
  have hne : c.toNat ≠ 0x7F := fun h => hdelete (Char.toNat_inj.mp h)
  have hrange : c.toNat ≤ 0x7E ∨ 0x80 ≤ c.toNat := by omega
  simp only [isPlain, hlow, Bool.or_eq_true, Bool.and_eq_true, decide_eq_true_eq, true_and,
    or_assoc]
  exact Or.inr hrange

theorem isPlain_of_not_hasControls (h : hasControls t = false) (hc : c ∈ t) (hfeed : c ≠ '\n') :
    isPlain c = true := by
  by_cases htab : c = '\t'
  · subst htab
    rfl
  · have hcontrol := List.any_eq_false.mp h c hc
    simp only [htab, hfeed, bne_iff_ne, ne_eq, not_false_eq_true, Bool.and_eq_true,
      Bool.or_eq_true, decide_eq_true_eq, and_true, not_or, Nat.not_lt] at hcontrol
    exact isPlain_of_not_control hcontrol.1 hcontrol.2

/-- How a character may stand between double quotes: by an escape, or as it is. -/
inductive Spells (lineFeeds : Bool) : Text → Char → Prop
  | letter {e c : Char} (h : escapedChar? e = some c) : Spells lineFeeds ['\\', e] c
  | digits {a b c : Char} (h : numberedChar? ['0', '0', a, b] = some c) :
      Spells lineFeeds ['\\', 'u', '0', '0', a, b] c
  | plain {c : Char} (h : isPlain c = true) (hquote : c ≠ '"') (hslash : c ≠ '\\') :
      Spells lineFeeds [c] c
  | lineFeed (h : lineFeeds = true) : Spells lineFeeds ['\n'] '\n'

theorem numberedChar?_of_lt : ∀ n < 0x80,
    numberedChar? ['0', '0', (Nat.digitChar (n / 16)).toUpper, (Nat.digitChar (n % 16)).toUpper] =
      some (Char.ofNat n) := by
  decide

theorem spells_byNumber (h : c.toNat < 0x80) : Spells lineFeeds (byNumber c) c := by
  apply Spells.digits
  rw [numberedChar?_of_lt _ h, Char.ofNat_toNat]

/-- A character other than a double quote, as it is written between double quotes. -/
def escapedChar (lineFeeds : Bool) (c : Char) : Text :=
  if c = '\\' then ['\\', '\\']
  else if c = '\x08' then ['\\', 'b']
  else if c = '\t' then ['\\', 't']
  else if c = '\n' then if lineFeeds then ['\n'] else ['\\', 'n']
  else if c = '\x0c' then ['\\', 'f']
  else if c = '\r' then ['\\', 'r']
  else if c.toNat < 0x20 ∨ c = '\x7f' then byNumber c
  else [c]

theorem escapedBasic_cons_of_ne (quotes run : Nat) (h : c ≠ '"') :
    escapedBasic lineFeeds quotes run (c :: t) =
      escapedChar lineFeeds c ++ escapedBasic lineFeeds quotes 0 t := by
  rw [escapedBasic, if_neg h, escapedChar]

theorem spells_escapedChar (lineFeeds : Bool) (h : c ≠ '"') :
    Spells lineFeeds (escapedChar lineFeeds c) c := by
  unfold escapedChar
  split_ifs with hslash hbackspace htab hfeed hlong hform hreturn hcontrol
  · subst hslash
    exact .letter rfl
  · subst hbackspace
    exact .letter rfl
  · subst htab
    exact .letter rfl
  · subst hfeed
    exact .lineFeed hlong
  · subst hfeed
    exact .letter rfl
  · subst hform
    exact .letter rfl
  · subst hreturn
    exact .letter rfl
  · apply spells_byNumber
    rcases hcontrol with hlow | rfl
    · omega
    · decide
  · obtain ⟨hlow, hdelete⟩ := not_or.mp hcontrol
    exact .plain (isPlain_of_not_control (Nat.not_lt.mp hlow) hdelete) h hslash

/-- A spelling does not begin like a quote or a line end, unless it is a line feed. -/
theorem Spells.exists_cons (h : Spells lineFeeds w c) :
    ∃ d w', w = d :: w' ∧ d ≠ '"' ∧ d ≠ '\r' ∧ (d = '\n' → c = '\n') := by
  cases h with
  | letter _ | digits _ => exact ⟨'\\', _, rfl, by simp⟩
  | plain hplain hquote _ =>
    exact ⟨c, [], rfl, hquote, ne_of_holds hplain rfl, id⟩
  | lineFeed _ => exact ⟨'\n', [], rfl, by decide, by decide, fun _ => rfl⟩

theorem ne_of_escapedChar? (h : escapedChar? d = some c) : d ≠ 'u' ∧ d ≠ 'U' := by
  constructor <;> rintro rfl <;> simp [escapedChar?] at h

/-! ### Double quotes -/

/-- The reader of one line takes a spelling as the character that it spells. -/
theorem basicFrom_of_spells (h : Spells false w c) :
    basicFrom before (w ++ rest) = basicFrom (c :: before) rest := by
  cases h with
  | letter h =>
    obtain ⟨hu, hU⟩ := ne_of_escapedChar? h
    rw [List.cons_append, List.singleton_append, basicFrom, h]
    · simp [hu]
    · simp [hU]
  | digits h => simp [basicFrom, h]
  | plain h hquote hslash => rw [List.singleton_append, basicFrom] <;> simp_all
  | lineFeed h => exact absurd h (by decide)

/-- The reader of several lines takes a spelling as the character that it spells. -/
theorem longBasicFrom_of_spells (h : Spells lineFeeds w c) :
    longBasicFrom false before (w ++ rest) = longBasicFrom false (c :: before) rest := by
  cases h with
  | letter h =>
    obtain ⟨hu, hU⟩ := ne_of_escapedChar? h
    rw [List.cons_append, List.singleton_append, longBasicFrom, h]
    · simp [hu]
    · simp [hU]
  | digits h => simp [longBasicFrom, h]
  | plain h hquote hslash =>
    have hreturn : c ≠ '\r' := ne_of_holds h rfl
    rw [List.singleton_append, longBasicFrom] <;> simp_all
  | lineFeed _ => simp [longBasicFrom]

/-- A text on one line is read back up to its closing quote. -/
theorem basicFrom_escapedBasic (before t rest : Text) (run : Nat) :
    basicFrom before (escapedBasic false 0 run t ++ '"' :: rest) =
      some (before.reverse ++ t, rest) := by
  induction t generalizing before run with
  | nil => simp [escapedBasic, basicFrom]
  | cons c t ih =>
    by_cases hquote : c = '"'
    · subst hquote
      have hread : basicFrom before ('\\' :: '"' :: (escapedBasic false 0 0 t ++ '"' :: rest)) =
          basicFrom ('"' :: before) (escapedBasic false 0 0 t ++ '"' :: rest) :=
        basicFrom_of_spells (w := ['\\', '"']) (.letter rfl)
      simp [escapedBasic, hread, ih]
    · rw [escapedBasic_cons_of_ne 0 run hquote, List.append_assoc,
        basicFrom_of_spells (spells_escapedChar false hquote), ih]
      simp

/-- Up to two quotes are taken as they are if no quote follows. -/
theorem longBasicFrom_replicate (before rest : Text) (hrun : run ≤ 2) (hd : d ≠ '"') :
    longBasicFrom false before (List.replicate run '"' ++ d :: rest) =
      longBasicFrom false (List.replicate run '"' ++ before) (d :: rest) := by
  have hplain : isPlain '"' = true := rfl
  match run, hrun with
  | 0, _ => rfl
  | 1, _ =>
    rw [List.replicate_one, List.singleton_append, longBasicFrom] <;> simp [hd, hplain]
  | 2, _ =>
    change longBasicFrom false before ('"' :: '"' :: d :: rest) = _
    rw [longBasicFrom, if_neg (by simp), if_pos (by simp [hplain]), longBasicFrom] <;>
      simp [hd, hplain, List.replicate]

/-- Up to two quotes in front of the closing ones belong to the text. -/
theorem longBasicFrom_closing (before : Text) (hrun : run ≤ 2) (hrest : rest.head? ≠ some '"') :
    longBasicFrom false before (List.replicate run '"' ++ '"' :: '"' :: '"' :: rest) =
      some (before.reverse ++ List.replicate run '"', rest) := by
  have hquote : ∀ r, rest ≠ '"' :: r := by
    rintro r rfl
    exact hrest rfl
  match run, hrun with
  | 0, _ => simp [longBasicFrom, hquote]
  | 1, _ => simp [longBasicFrom]
  | 2, _ => simp [longBasicFrom, List.replicate]

/-- Up to two quotes and a spelling behind them are taken. -/
theorem longBasicFrom_replicate_append (before rest : Text) (hrun : run ≤ 2)
    (h : Spells lineFeeds w c) :
    longBasicFrom false before (List.replicate run '"' ++ (w ++ rest)) =
      longBasicFrom false (c :: (List.replicate run '"' ++ before)) rest := by
  obtain ⟨d, w', rfl, hd, -, -⟩ := h.exists_cons
  rw [List.cons_append, longBasicFrom_replicate before _ hrun hd, ← List.cons_append,
    longBasicFrom_of_spells h]

/-- A text of several lines is read back up to its closing quotes; `run` quotes have been met, but
not yet taken. -/
theorem longBasicFrom_escapedBasic (before t : Text) (run : Nat) (hrun : run ≤ 2)
    (hrest : rest.head? ≠ some '"') :
    longBasicFrom false before
        (List.replicate run '"' ++ (escapedBasic true 2 run t ++ '"' :: '"' :: '"' :: rest)) =
      some (before.reverse ++ (List.replicate run '"' ++ t), rest) := by
  induction t generalizing before run with
  | nil => simpa [escapedBasic] using longBasicFrom_closing before hrun hrest
  | cons c t ih =>
    -- a character that ends the run is taken with the run in front of it
    have hend : longBasicFrom false (c :: (List.replicate run '"' ++ before))
        (escapedBasic true 2 0 t ++ '"' :: '"' :: '"' :: rest) =
          some (before.reverse ++ (List.replicate run '"' ++ c :: t), rest) := by
      simpa using ih (c :: (List.replicate run '"' ++ before)) 0 (Nat.zero_le 2)
    by_cases hquote : c = '"'
    · subst hquote
      by_cases hlimit : run < 2
      · have hmore := ih before (run + 1) hlimit
        simpa [escapedBasic, hlimit, List.replicate_succ'] using hmore
      · have hescape : Spells true ['\\', '"'] '"' := .letter rfl
        have htake := longBasicFrom_replicate_append before
          (escapedBasic true 2 0 t ++ '"' :: '"' :: '"' :: rest) hrun hescape
        rw [escapedBasic, if_pos rfl, if_neg hlimit]
        exact htake.trans hend
    · rw [escapedBasic_cons_of_ne 2 run hquote, List.append_assoc,
        longBasicFrom_replicate_append before _ hrun (spells_escapedChar true hquote), hend]

/-! ### Single quotes -/

theorem literalFrom_append (before rest : Text) (hplain : ∀ c ∈ t, isPlain c = true)
    (hquote : '\'' ∉ t) :
    literalFrom before (t ++ '\'' :: rest) = some (before.reverse ++ t, rest) := by
  induction t generalizing before with
  | nil => simp [literalFrom]
  | cons c t ih =>
    obtain ⟨hne, hnot⟩ := not_or.mp (mt List.mem_cons.mpr hquote)
    have hc : isPlain c = true := hplain c List.mem_cons_self
    have htail := ih (c :: before) (fun d hd => hplain d (List.mem_cons_of_mem c hd)) hnot
    rw [List.cons_append, literalFrom, if_pos hc, htail]
    · simp
    · exact fun h => hne h.symm

/-- No run of a character is longer than a limit, if `run` occurrences stand in front. -/
def RunsWithin (limit : Nat) (c : Char) : Nat → Text → Prop
  | run, [] => run ≤ limit
  | run, d :: t => run ≤ limit ∧ RunsWithin limit c (if d = c then run + 1 else 0) t

theorem RunsWithin.le (h : RunsWithin n c run t) : run ≤ n := by
  cases t with
  | nil => exact h
  | cons d t => exact h.1

theorem RunsWithin.not_mem (h : RunsWithin 0 c run t) : c ∉ t := by
  induction t generalizing run with
  | nil => exact List.not_mem_nil
  | cons d t ih =>
    have htail := h.2
    intro hmem
    rcases List.mem_cons.mp hmem with rfl | hmem
    · rw [if_pos rfl] at htail
      exact absurd htail.le (by omega)
    · exact ih htail hmem

/-- One step of the count of `longestRun`: the current run and the longest one. -/
def countRun (c : Char) (state : Nat × Nat) (d : Char) : Nat × Nat :=
  let run := if d = c then state.1 + 1 else 0
  (run, max run state.2)

theorem runsWithin_of_foldl_countRun_le (hrun : run ≤ best)
    (h : (t.foldl (countRun c) (run, best)).2 ≤ n) : best ≤ n ∧ RunsWithin n c run t := by
  induction t generalizing run best with
  | nil => exact ⟨h, Nat.le_trans hrun h⟩
  | cons d t ih =>
    obtain ⟨hmax, htail⟩ := ih (Nat.le_max_left _ best) h
    have hbest : best ≤ n := Nat.le_trans (Nat.le_max_right _ best) hmax
    exact ⟨hbest, Nat.le_trans hrun hbest, htail⟩

theorem runsWithin_of_longestRun_le (h : longestRun c t ≤ n) : RunsWithin n c 0 t :=
  (runsWithin_of_foldl_countRun_le (Nat.le_refl 0) h).2

/-- Up to two quotes are taken as they are if no quote follows. -/
theorem longLiteralFrom_replicate (before rest : Text) (hrun : run ≤ 2) (hd : d ≠ '\'') :
    longLiteralFrom before (List.replicate run '\'' ++ d :: rest) =
      longLiteralFrom (List.replicate run '\'' ++ before) (d :: rest) := by
  have hplain : isPlain '\'' = true := rfl
  match run, hrun with
  | 0, _ => rfl
  | 1, _ =>
    rw [List.replicate_one, List.singleton_append, longLiteralFrom] <;> simp [hd, hplain]
  | 2, _ =>
    change longLiteralFrom before ('\'' :: '\'' :: d :: rest) = _
    rw [longLiteralFrom, if_pos (by simp [hplain]), longLiteralFrom] <;>
      simp [hd, hplain, List.replicate]

/-- Up to two quotes in front of the closing ones belong to the text. -/
theorem longLiteralFrom_closing (before : Text) (hrun : run ≤ 2) (hrest : rest.head? ≠ some '\'') :
    longLiteralFrom before (List.replicate run '\'' ++ '\'' :: '\'' :: '\'' :: rest) =
      some (before.reverse ++ List.replicate run '\'', rest) := by
  have hquote : ∀ r, rest ≠ '\'' :: r := by
    rintro r rfl
    exact hrest rfl
  match run, hrun with
  | 0, _ => simp [longLiteralFrom, hquote]
  | 1, _ => simp [longLiteralFrom]
  | 2, _ => simp [longLiteralFrom, List.replicate]

/-- A text of several lines is read back up to its closing quotes; `run` quotes have been met, but
not yet taken. -/
theorem longLiteralFrom_append (before : Text) (run : Nat)
    (hplain : ∀ c ∈ t, isPlain c = true ∨ c = '\n') (hruns : RunsWithin 2 '\'' run t)
    (hrest : rest.head? ≠ some '\'') :
    longLiteralFrom before
        (List.replicate run '\'' ++ (t ++ '\'' :: '\'' :: '\'' :: rest)) =
      some (before.reverse ++ (List.replicate run '\'' ++ t), rest) := by
  induction t generalizing before run with
  | nil => simpa using longLiteralFrom_closing before hruns.le hrest
  | cons c t ih =>
    have htail : ∀ d ∈ t, isPlain d = true ∨ d = '\n' := fun d hd =>
      hplain d (List.mem_cons_of_mem c hd)
    by_cases hquote : c = '\''
    · subst hquote
      have hmore := ih before (run + 1) htail (by simpa using hruns.2)
      simpa [List.replicate_succ'] using hmore
    · have hc : (isPlain c || decide (c = '\n')) = true := by
        simpa using hplain c List.mem_cons_self
      have hreturn : c ≠ '\r' := ne_of_holds (p := fun x => isPlain x || x = '\n') hc rfl
      have hend := ih (c :: (List.replicate run '\'' ++ before)) 0 htail
        (by simpa [hquote] using hruns.2)
      rw [List.cons_append, longLiteralFrom_replicate before _ hruns.le hquote, longLiteralFrom,
        if_pos hc]
      · simpa using hend
      all_goals simp [hquote, hreturn]

/-! ### The forms -/

theorem dropLineEnd_of_head? (h : ∀ c ∈ t.head?, c ≠ '\n' ∧ c ≠ '\r') : dropLineEnd t = t := by
  unfold dropLineEnd afterLineEnd?
  split
  · exact absurd rfl (h '\n' rfl).1
  · exact absurd rfl (h '\r' rfl).2
  · rfl

/-- The line feed behind the opening quotes keeps the reader from dropping one of the text. -/
theorem dropLineEnd_openingLineEnd (h : '\n' ∉ t → ∀ c ∈ w.head?, c ≠ '\n' ∧ c ≠ '\r') :
    dropLineEnd (openingLineEnd t ++ w) = w := by
  unfold openingLineEnd
  split
  · rfl
  · next hfeed => exact dropLineEnd_of_head? (h (by simpa using hfeed))

theorem readQuoted?_double (h : ∀ r, w ≠ '"' :: '"' :: r) :
    readQuoted? ('"' :: w) = basicFrom [] w := by
  unfold readQuoted?
  split
  · next r heq => exact absurd (List.cons.inj heq).2 (h r)
  · next r heq => exact absurd (List.cons.inj heq).1 (by decide)
  · rfl

theorem readQuoted?_single (h : ∀ r, w ≠ '\'' :: '\'' :: r) :
    readQuoted? ('\'' :: w) = literalFrom [] w := by
  unfold readQuoted?
  split
  · next r heq => exact absurd (List.cons.inj heq).1 (by decide)
  · next r heq => exact absurd (List.cons.inj heq).2 (h r)
  · rfl

theorem readQuoted?_basic (t : Text) (hrest : rest.head? ≠ some '"') :
    readQuoted? (basic t ++ rest) = some (t, rest) := by
  have hform : basic t ++ rest = '"' :: (escapedBasic false 0 0 t ++ '"' :: rest) := by
    simp [basic]
  rw [hform, readQuoted?_double, basicFrom_escapedBasic]
  · rfl
  · -- the text is empty, or begins with a spelling, which does not begin with a quote
    cases t with
    | nil =>
      rintro r heq
      exact hrest (by simp [(List.cons.inj heq).2])
    | cons c t =>
      by_cases hquote : c = '"'
      · simp [escapedBasic, hquote]
      · obtain ⟨d, w, hw, hd, -, -⟩ := (spells_escapedChar false hquote).exists_cons
        rw [escapedBasic_cons_of_ne 0 0 hquote, hw]
        simp [hd]

theorem readQuoted?_literal (hplain : ∀ c ∈ t, isPlain c = true) (hquote : '\'' ∉ t)
    (hrest : rest.head? ≠ some '\'') : readQuoted? (literal t ++ rest) = some (t, rest) := by
  have hform : literal t ++ rest = '\'' :: (t ++ '\'' :: rest) := by
    simp [literal]
  rw [hform, readQuoted?_single, literalFrom_append [] rest hplain hquote]
  · rfl
  · -- two quotes behind the opening one would open a text of several lines
    cases t with
    | nil =>
      rintro r heq
      exact hrest (by simp [(List.cons.inj heq).2])
    | cons c t =>
      rintro r heq
      exact hquote ((List.cons.inj heq).1 ▸ List.mem_cons_self)

theorem ne_lineEnd_of_mem_head?_escapedBasic (h : '\n' ∉ t) :
    ∀ c ∈ (escapedBasic true 2 0 t ++ '"' :: w).head?, c ≠ '\n' ∧ c ≠ '\r' := by
  cases t with
  | nil => simp [escapedBasic]
  | cons c t =>
    by_cases hquote : c = '"'
    · simp [escapedBasic, hquote]
    · obtain ⟨d, v, hv, -, hreturn, hfeed⟩ := (spells_escapedChar true hquote).exists_cons
      have hd : d ≠ '\n' := fun hd => h (by simp [hfeed hd])
      rw [escapedBasic_cons_of_ne 2 0 hquote, hv]
      simp [hd, hreturn]

theorem readQuoted?_longBasic (t : Text) (hrest : rest.head? ≠ some '"') :
    readQuoted? (longBasic t ++ rest) = some (t, rest) := by
  have hform : longBasic t ++ rest = '"' :: '"' :: '"' ::
      (openingLineEnd t ++ (escapedBasic true 2 0 t ++ '"' :: '"' :: '"' :: rest)) := by
    simp [longBasic]
  rw [hform, readQuoted?, dropLineEnd_openingLineEnd ne_lineEnd_of_mem_head?_escapedBasic]
  exact longBasicFrom_escapedBasic [] t 0 (Nat.zero_le 2) hrest

theorem readQuoted?_longLiteral (hplain : ∀ c ∈ t, isPlain c = true ∨ c = '\n')
    (hruns : RunsWithin 2 '\'' 0 t) (hrest : rest.head? ≠ some '\'') :
    readQuoted? (longLiteral t ++ rest) = some (t, rest) := by
  have hform : longLiteral t ++ rest = '\'' :: '\'' :: '\'' ::
      (openingLineEnd t ++ (t ++ '\'' :: '\'' :: '\'' :: rest)) := by
    simp [longLiteral]
  rw [hform, readQuoted?, dropLineEnd_openingLineEnd]
  · exact longLiteralFrom_append [] 0 hplain hruns hrest
  · intro hfeed
    cases t with
    | nil => simp
    | cons c t =>
      have hc : c ≠ '\n' := fun hc => hfeed (by simp [hc])
      have hplainc : isPlain c = true := (hplain c List.mem_cons_self).resolve_right hc
      have hreturn : c ≠ '\r' := ne_of_holds hplainc rfl
      simp [hc, hreturn]

/-- A text in quotes is read back, whatever form was chosen for it. -/
theorem readQuoted?_quote (t : Text) (hdouble : rest.head? ≠ some '"')
    (hsingle : rest.head? ≠ some '\'') : readQuoted? (quote t ++ rest) = some (t, rest) := by
  unfold quote
  simp only
  -- one case for each form, in the order in which they are tried
  split_ifs with hbasic hliteral hlongBasic hlongLiteral hfeed
  · exact readQuoted?_basic t hdouble
  · simp only [Bool.and_eq_true, Bool.not_eq_true', decide_eq_true_eq] at hliteral
    obtain ⟨⟨hcontrols, hfeed⟩, hrun⟩ := hliteral
    have hnot : '\n' ∉ t := by simpa using hfeed
    have hplain : ∀ c ∈ t, isPlain c = true := by
      intro c hc
      exact isPlain_of_not_hasControls hcontrols hc (by rintro rfl; exact hnot hc)
    exact readQuoted?_literal hplain (runsWithin_of_longestRun_le (by omega)).not_mem hsingle
  · exact readQuoted?_longBasic t hdouble
  · simp only [Bool.and_eq_true, Bool.not_eq_true', decide_eq_true_eq] at hlongLiteral
    obtain ⟨hcontrols, hrun⟩ := hlongLiteral
    have hplain : ∀ c ∈ t, isPlain c = true ∨ c = '\n' := by
      intro c hc
      by_cases hfeed : c = '\n'
      · exact Or.inr hfeed
      · exact Or.inl (isPlain_of_not_hasControls hcontrols hc hfeed)
    exact readQuoted?_longLiteral hplain (runsWithin_of_longestRun_le hrun) hsingle
  · exact readQuoted?_longBasic t hdouble
  · exact readQuoted?_basic t hdouble

end LootFilter.Toml
