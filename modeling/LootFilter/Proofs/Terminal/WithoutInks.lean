import LootFilter.Filter.Listing
import LootFilter.Filter.Preview
import LootFilter.Proofs.Report.Table
import Mathlib.Data.List.Forall2

/-!
# Output without its inks

Inks add nothing to read. Whoever removes the escape sequences from a table in ink gets the same
table without ink, but for one thing: the swatch in front of a colour leaves its two blanks, and the
blank behind it. A text that holds no escape character passes unharmed, and only such texts are
spoken of here: an escape character in the name of an item, say, could begin a sequence of its own.

Tables are put together from pieces, and a piece in ink stands next to others. So a piece is
compared with what can be read of it in front of any other text; then the pieces can be joined.

## Main definitions

* `Text.withoutInks` — a text without its escape sequences
* `Text.ReadsAs` — a text and what can be read of it
* `Listing.gappedTable`, `Preview.gappedTable` — tables without ink, with a gap in front of colours

## Main results

* `Text.ReadsAs.inked` — inks do not change what can be read
* `Report.readsAs_table`, `Listing.readsAs_table`, `Preview.readsAs_table` — what can be read of a
  table in ink
* `withoutInks_tables` — the three tables with and without ink
-/

namespace LootFilter

namespace Text

/-! ### Removing escape sequences -/

/-- A text without its escape sequences. If a sequence has begun, its characters up to here are
given with the last one first; they remain if the text ends before the sequence does. -/
def withoutInksFrom : Option Text → Text → Text
  | none, [] => []
  | none, '\x1b' :: '[' :: t => withoutInksFrom (some []) t
  | none, c :: t => c :: withoutInksFrom none t
  | some parameters, [] => '\x1b' :: '[' :: parameters.reverse
  | some parameters, c :: t =>
    if c = 'm' then withoutInksFrom none t else withoutInksFrom (some (c :: parameters)) t

/-- A text without its escape sequences: each begins with an escape character and a bracket, and
goes on to the next letter `m`. -/
def withoutInks (t : Text) : Text := withoutInksFrom none t

/-- Whether one text is what can be read of another one, whatever text follows. -/
def ReadsAs (t plain : Text) : Prop := ∀ r, withoutInks (t ++ r) = plain ++ withoutInks r

variable {t t' u u' : Text} {c : Char}

theorem withoutInks_cons (h : c ≠ '\x1b') (t : Text) :
    withoutInks (c :: t) = c :: withoutInks t := by
  rw [withoutInks, withoutInksFrom.eq_def]
  -- of the cases of the scan only that of an ordinary character is left
  split
  · next heq => cases heq
  · next heq => exact absurd (List.cons.inj heq).1 h
  · next heq =>
    obtain ⟨rfl, rfl⟩ := List.cons.inj heq
    rfl
  · next heq _ => cases heq
  · next heq _ => cases heq

/-- A sequence that has begun is removed up to its end. -/
theorem withoutInksFrom_some_append (h : 'm' ∉ t) (parameters r : Text) :
    withoutInksFrom (some parameters) (t ++ 'm' :: r) = withoutInks r := by
  induction t generalizing parameters with
  | nil => rfl
  | cons c t ih =>
    rw [List.mem_cons, not_or] at h
    rw [List.cons_append, withoutInksFrom, if_neg (Ne.symm h.1)]
    exact ih h.2 _

theorem ReadsAs.withoutInks_eq (h : t.ReadsAs u) : withoutInks t = u := by
  have hend := h []
  rwa [List.append_nil, show withoutInks [] = [] from rfl, List.append_nil] at hend

/-- A text without escape characters reads as it stands. -/
theorem readsAs_self (h : '\x1b' ∉ t) : t.ReadsAs t := by
  intro r
  induction t with
  | nil => rfl
  | cons c t ih =>
    rw [List.mem_cons, not_or] at h
    rw [List.cons_append, withoutInks_cons (Ne.symm h.1), ih h.2, List.cons_append]

theorem IsPrintable.readsAs_self (h : t.IsPrintable) : t.ReadsAs t :=
  Text.readsAs_self (h.not_mem (by decide))

/-- Pieces are read one by one. -/
theorem ReadsAs.append (h : t.ReadsAs u) (h' : t'.ReadsAs u') :
    ReadsAs (t ++ t') (u ++ u') := by
  intro r
  rw [List.append_assoc, h, h', List.append_assoc]

/-- Nothing can be read of an escape sequence. -/
theorem readsAs_escapeSequence (parameters : List Nat) :
    (escapeSequence parameters).ReadsAs [] := by
  intro r
  have hparameters : 'm' ∉ joined ";" (parameters.map ofNat) := by
    intro h
    rcases mem_joined h with h | ⟨digits, hdigits, h⟩
    · exact absurd h (by decide)
    · obtain ⟨n, -, rfl⟩ := List.mem_map.mp hdigits
      exact absurd (isDigit_of_mem_ofNat h) (by decide)
  rw [escapeSequence, List.cons_append, List.cons_append, List.append_assoc]
  exact withoutInksFrom_some_append hparameters [] r

/-- Inks do not change what can be read. -/
theorem ReadsAs.inked (h : t.ReadsAs u) (wanted : Bool) (inks : List Ink) :
    (Text.inked wanted inks t).ReadsAs u := by
  cases wanted with
  | false => exact h
  | true =>
    -- the first ink is the innermost one: with it the text still reads the same
    induction inks generalizing t with
    | nil => exact h
    | cons ink inks ih =>
      rw [inked_true_cons]
      apply ih
      have hopening : (ink.opening ++ t).ReadsAs u := (readsAs_escapeSequence _).append h
      have haround := hopening.append (readsAs_escapeSequence [ink.offParameter])
      rwa [List.append_nil] at haround

example : (Text.inked true [.red, .bold] "error").withoutInks = "error" := by decide

/-- Lines are read one by one. -/
theorem readsAs_unlines {ts us : List Text} (h : List.Forall₂ ReadsAs ts us) :
    (unlines ts).ReadsAs (unlines us) := by
  induction h with
  | nil => exact readsAs_self (by decide)
  | cons hline _ ih => exact (hline.append (readsAs_self (by decide))).append ih

end Text

open Text (readsAs_self readsAs_unlines)

/-! ### Cells -/

/-- What can be read of a swatch and the blank behind it. -/
def swatchGap : Text := "   "

/-- What can be read of a colour in ink is its notation behind a gap. -/
theorem Color.readsAs_cell (c : Color) : (c.cell true).ReadsAs (swatchGap ++ c.css) := by
  have hswatch : Text.ReadsAs "  " "  " := readsAs_self (by decide)
  have hcss : Text.ReadsAs (' ' :: c.css) (' ' :: c.css) :=
    (Text.isPrintable_cons_iff.mpr ⟨by decide, c.isPrintable_css⟩).readsAs_self
  exact (hswatch.inked true _).append hcss

theorem Cell.readsAs_beam (b : Option Beam) : (Cell.beam true b).ReadsAs (Cell.beam false b) := by
  cases b with
  | none => exact readsAs_self (by decide)
  | some b =>
    have hlabel : (b.name ++ " (" ++ b.hex ++ ")" : Text).IsPrintable := by
      simp only [Text.isPrintable_append_iff]
      exact ⟨⟨⟨b.isPrintable_name, by decide⟩, b.isPrintable_hex⟩, by decide⟩
    exact hlabel.readsAs_self.inked true _

theorem Severity.readsAs_cell (s : Severity) : (s.cell true).ReadsAs (s.cell false) :=
  s.isPrintable_label.readsAs_self.inked true _

theorem Visibility.readsAs_cell (v : Visibility) : (v.cell true).ReadsAs (v.cell false) :=
  v.isPrintable_keyword.readsAs_self.inked true _

/-! ### Reports -/

namespace Report

variable {r : Report} {file : Text}

theorem readsAs_diagnosticLine {d : Diagnostic} (hfile : '\x1b' ∉ file)
    (hmessage : '\x1b' ∉ d.problem.message) :
    (diagnosticLine true file d).ReadsAs (diagnosticLine false file d) := by
  have hplace : (file ++ ':' :: Text.ofNat d.line).ReadsAs (file ++ ':' :: Text.ofNat d.line) := by
    apply readsAs_self
    have hnumber := (Text.isPrintable_ofNat d.line).not_mem (c := '\x1b') (by decide)
    simp [hfile, hnumber]
  have hcolon : Text.ReadsAs ": " ": " := readsAs_self (by decide)
  exact ((((hplace.inked true _).append hcolon).append d.problem.severity.readsAs_cell).append
    hcolon).append (readsAs_self hmessage)

/-- What can be read of a report in ink is the report without ink. -/
theorem readsAs_table (hfile : '\x1b' ∉ file)
    (hreport : ∀ d ∈ r.diagnostics, '\x1b' ∉ d.problem.message) (strict : Bool) :
    (r.table true file strict).ReadsAs (r.table false file strict) := by
  apply readsAs_unlines
  refine List.rel_append (List.rel_append ?_ ?_) ?_
  · rw [List.forall₂_map_left_iff, List.forall₂_map_right_iff, List.forall₂_same]
    intro d hd
    exact readsAs_diagnosticLine hfile (hreport d hd)
  · split
    · exact .nil
    · exact .cons (readsAs_self (by decide)) .nil
  · have hsummary := readsAs_self (not_mem_summary (r := r) (by decide) (by decide))
    exact .cons (hsummary.inked true _) .nil

end Report

/-! ### Listings of blocks -/

/-- The texts that a value is made of. -/
def Value.texts : Value → List Text
  | .text t => [t]
  | .list ts => ts
  | .number _ => []
  | .malformed digits => [digits]

theorem Value.exists_mem_texts {v : Value} {c : Char} (hc : c.toNat < 0x20) (h : c ∈ v.display) :
    ∃ t ∈ v.texts, c ∈ t := by
  have hquote : c ≠ '"' := by
    rintro rfl
    exact absurd hc (by decide)
  have hspace : c ≠ ' ' := by
    rintro rfl
    exact absurd hc (by decide)
  cases v with
  | text t => exact ⟨t, List.mem_singleton_self t, by simpa [display, quoted, hquote] using h⟩
  | list ts =>
    rcases Text.mem_joined h with h | ⟨_, hmem, h⟩
    · exact absurd h (by simpa using hspace)
    · obtain ⟨t, ht, rfl⟩ := List.mem_map.mp hmem
      exact ⟨t, ht, by simpa [quoted, hquote] using h⟩
  | number n => exact absurd h ((Text.isPrintable_ofInt n).not_mem hc)
  | malformed digits => exact ⟨digits, List.mem_singleton_self digits, h⟩

/-- A condition is displayed without control characters, apart from those of its value. -/
theorem Condition.escape_not_mem_display {c : Condition} (h : ∀ t ∈ c.value.texts, '\x1b' ∉ t) :
    '\x1b' ∉ c.display := by
  have hkeyword := c.property.isPrintable_keyword.not_mem (c := '\x1b') (by decide)
  have hsymbol := c.operator.isPrintable_symbol.not_mem (c := '\x1b') (by decide)
  have hvalue : '\x1b' ∉ c.value.display := by
    intro hmem
    obtain ⟨t, ht, hc⟩ := Value.exists_mem_texts (by decide) hmem
    exact h t ht hc
  simp [display, hkeyword, hsymbol, hvalue]

theorem Text.not_mem_shortened {c : Char} {t : Text} (hdot : c ≠ '.') (h : c ∉ t) (limit : Nat) :
    c ∉ t.shortened limit := by
  rw [shortened]
  split
  · rw [List.mem_append, not_or]
    exact ⟨fun hc => h (List.mem_of_mem_take hc), by simpa [ellipsis] using hdot⟩
  · exact h

namespace Listing

variable {b : Block} {blocks : List Block}

/-- A line for a colour of a style, with a gap in front of the colour. -/
def gappedColorLine (gap label : Text) (color default : Color) : List Text :=
  if color = default then []
  else [indentation ++ "-> " ++ label ++ ' ' :: gap ++ color.css]

/-- The lines for what a style changes, with a gap in front of each colour. -/
def gappedStyleLines (gap : Text) (s : Style) : List Text :=
  (if s.fontSize = Style.default.fontSize then []
    else [indentation ++ "-> font size " ++ Text.ofInt s.fontSize]) ++
  gappedColorLine gap "text" s.textColor Style.default.textColor ++
  gappedColorLine gap "border" s.borderColor Style.default.borderColor ++
  gappedColorLine gap "background" s.backgroundColor Style.default.backgroundColor ++
  if s.beam.isNone then [] else [indentation ++ "-> beam " ++ Cell.beam false s.beam]

/-- The blocks of a filter as a table without ink, with a gap in front of each colour. -/
def gappedTable (gap : Text) (blocks : List Block) : Text :=
  Text.unlines
    (if blocks.isEmpty then ["No blocks found."]
      else blocks.flatMap fun b =>
        headerLine false b :: conditionLines false b ++ gappedStyleLines gap b.style)

/-- Without a gap this is the table without ink. -/
theorem gappedTable_nil (blocks : List Block) : gappedTable [] blocks = table false blocks :=
  rfl

theorem readsAs_headerLine (b : Block) : (headerLine true b).ReadsAs (headerLine false b) := by
  have hnumber : (Text.padLeft numberWidth (Text.ofNat b.line)).IsPrintable :=
    Text.isPrintable_append_iff.mpr
      ⟨Text.isPrintable_replicate _ (by decide), Text.isPrintable_ofNat b.line⟩
  have hblank : Text.ReadsAs [' '] [' '] := readsAs_self (by decide)
  exact (hnumber.readsAs_self.inked true _).append (hblank.append b.visibility.readsAs_cell)

theorem readsAs_conditionLines (h : ∀ c ∈ b.conditions, ∀ t ∈ c.value.texts, '\x1b' ∉ t) :
    List.Forall₂ Text.ReadsAs (conditionLines true b) (conditionLines false b) := by
  have hindentation : indentation.ReadsAs indentation := readsAs_self (by decide)
  rw [conditionLines, conditionLines]
  split
  · have hnote : Text.ReadsAs "(matches every item)" "(matches every item)" :=
      readsAs_self (by decide)
    exact .cons (hindentation.append (hnote.inked true _)) .nil
  · rw [List.forall₂_map_left_iff, List.forall₂_map_right_iff, List.forall₂_same]
    intro c hc
    exact hindentation.append (readsAs_self (Text.not_mem_shortened (by decide)
      (Condition.escape_not_mem_display (h c hc)) _))

theorem readsAs_colorLine {label : Text} (h : label.IsPrintable) (color default : Color) :
    List.Forall₂ Text.ReadsAs (colorLine true label color default)
      (gappedColorLine swatchGap label color default) := by
  rw [colorLine, gappedColorLine]
  split
  · exact .nil
  · have hlabel : (indentation ++ "-> " ++ label ++ [' '] : Text).IsPrintable := by
      simp only [Text.isPrintable_append_iff]
      exact ⟨⟨⟨by decide, by decide⟩, h⟩, by decide⟩
    have hline := hlabel.readsAs_self.append color.readsAs_cell
    refine .cons ?_ .nil
    simpa using hline

theorem readsAs_styleLines (s : Style) :
    List.Forall₂ Text.ReadsAs (styleLines true s) (gappedStyleLines swatchGap s) := by
  rw [styleLines, gappedStyleLines]
  refine List.rel_append (List.rel_append (List.rel_append (List.rel_append ?_ ?_) ?_) ?_) ?_
  · split
    · exact .nil
    · have hsize : (indentation ++ "-> font size " ++ Text.ofInt s.fontSize : Text).IsPrintable :=
        Text.isPrintable_append_iff.mpr ⟨by decide, Text.isPrintable_ofInt s.fontSize⟩
      exact .cons hsize.readsAs_self .nil
  · exact readsAs_colorLine (by decide) _ _
  · exact readsAs_colorLine (by decide) _ _
  · exact readsAs_colorLine (by decide) _ _
  · split
    · exact .nil
    · have hlabel : Text.ReadsAs (indentation ++ "-> beam ") (indentation ++ "-> beam ") :=
        readsAs_self (by decide)
      exact .cons (hlabel.append (Cell.readsAs_beam s.beam)) .nil

/-- What can be read of a listing in ink is the listing without ink, with a gap in front of each
colour. -/
theorem readsAs_table (h : ∀ b ∈ blocks, ∀ c ∈ b.conditions, ∀ t ∈ c.value.texts, '\x1b' ∉ t) :
    (table true blocks).ReadsAs (gappedTable swatchGap blocks) := by
  have hblock {b : Block} (hb : b ∈ blocks) : List.Forall₂ Text.ReadsAs (blockLines true b)
      (headerLine false b :: conditionLines false b ++ gappedStyleLines swatchGap b.style) :=
    List.rel_append (.cons (readsAs_headerLine b) (readsAs_conditionLines (h b hb)))
      (readsAs_styleLines b.style)
  apply readsAs_unlines
  split
  · exact .cons (readsAs_self (by decide)) .nil
  -- the blocks are compared with themselves, which keeps in mind that they are members
  · have hsame : List.Forall₂ (fun b b' => b = b' ∧ b ∈ blocks) blocks blocks :=
      List.forall₂_same.mpr fun b hb => ⟨rfl, hb⟩
    apply List.rel_flatMap hsame
    rintro b _ ⟨rfl, hb⟩
    exact hblock hb

end Listing

/-! ### Previews -/

namespace Preview

/-- The rows for a style, with a gap in front of each colour. -/
def gappedStyleRows (gap : Text) (s : Style) : List Text :=
  [row "Font size" (Text.ofInt s.fontSize), row "Text" (gap ++ s.textColor.css),
    row "Border" (gap ++ s.borderColor.css), row "Background" (gap ++ s.backgroundColor.css),
    row "Beam" (Cell.beam false s.beam)]

/-- The preview as a table without ink, with a gap in front of each colour. -/
def gappedTable (gap : Text) (p : Preview) : Text :=
  Text.unlines
    ([p.title ++ ": " ++ appearance p.verdict, reason p.verdict, []] ++
      gappedStyleRows gap p.verdict.style)

/-- Without a gap this is the table without ink. -/
theorem gappedTable_nil (p : Preview) : p.gappedTable [] = p.table false :=
  rfl

theorem isPrintable_appearance (v : Verdict) : (appearance v).IsPrintable := by
  rw [appearance]
  split <;> decide

theorem isPrintable_reason (v : Verdict) : (reason v).IsPrintable := by
  rw [reason]
  split
  · exact Text.isPrintable_append_iff.mpr ⟨by decide, Text.isPrintable_ofNat _⟩
  · decide

theorem escape_not_mem_title {p : Preview} (h : '\x1b' ∉ p.item.baseType) : '\x1b' ∉ p.title := by
  rw [title]
  split
  · exact h
  · decide

theorem readsAs_row {label value plain : Text} (hlabel : label.IsPrintable)
    (h : value.ReadsAs plain) : (row label value).ReadsAs (row label plain) := by
  have hstart : Text.IsPrintable ("  " ++ Text.padRight labelWidth label) := by
    simp only [Text.padRight, Text.isPrintable_append_iff]
    exact ⟨by decide, hlabel, Text.isPrintable_replicate _ (by decide)⟩
  exact hstart.readsAs_self.append h

theorem readsAs_styleRows (s : Style) :
    List.Forall₂ Text.ReadsAs (styleRows true s) (gappedStyleRows swatchGap s) :=
  .cons (readsAs_row (by decide) (Text.isPrintable_ofInt _).readsAs_self) <|
    .cons (readsAs_row (by decide) s.textColor.readsAs_cell) <|
    .cons (readsAs_row (by decide) s.borderColor.readsAs_cell) <|
    .cons (readsAs_row (by decide) s.backgroundColor.readsAs_cell) <|
    .cons (readsAs_row (by decide) (Cell.readsAs_beam s.beam)) .nil

/-- What can be read of a preview in ink is the preview without ink, with a gap in front of each
colour. -/
theorem readsAs_table {p : Preview} (h : '\x1b' ∉ p.item.baseType) :
    (p.table true).ReadsAs (p.gappedTable swatchGap) := by
  have htitle := (readsAs_self (escape_not_mem_title h)).inked true [.bold]
  have hcolon : Text.ReadsAs ": " ": " := readsAs_self (by decide)
  have happearance := (isPrintable_appearance p.verdict).readsAs_self.inked true
    [appearanceInk p.verdict, .bold]
  have hreason := (isPrintable_reason p.verdict).readsAs_self.inked true [.dimmed]
  apply readsAs_unlines
  exact .cons ((htitle.append hcolon).append happearance) <| .cons hreason <|
    .cons (readsAs_self (by decide)) (readsAs_styleRows p.verdict.style)

end Preview

/-- **Output without its inks.** If no text in them holds an escape character, then removing the
escape sequences from a report in ink gives the report without ink. From a listing of blocks and
from a preview it gives the one without ink, where three more blanks stand in front of each
colour. -/
theorem withoutInks_tables (file : Text) (strict : Bool) (r : Report) (blocks : List Block)
    (p : Preview) (hfile : '\x1b' ∉ file)
    (hreport : ∀ d ∈ r.diagnostics, '\x1b' ∉ d.problem.message)
    (hblocks : ∀ b ∈ blocks, ∀ c ∈ b.conditions, ∀ t ∈ c.value.texts, '\x1b' ∉ t)
    (hitem : '\x1b' ∉ p.item.baseType) :
    (r.table true file strict).withoutInks = r.table false file strict ∧
      (Listing.table true blocks).withoutInks = Listing.gappedTable "   " blocks ∧
      Listing.table false blocks = Listing.gappedTable [] blocks ∧
      (p.table true).withoutInks = p.gappedTable "   " ∧
      p.table false = p.gappedTable [] := by
  refine ⟨?_, ?_, rfl, ?_, rfl⟩
  · exact (Report.readsAs_table hfile hreport strict).withoutInks_eq
  · exact (Listing.readsAs_table hblocks).withoutInks_eq
  · exact (Preview.readsAs_table hitem).withoutInks_eq

/-- A filter that hides one base type, with a colour and a beam, and has a word too many. -/
def hiddenOrbs : Text :=
  "Hide\n    BaseType Chaos Orb\n    SetTextColor 300 0 0\n    PlayEffect Red\n"

theorem withoutInks_tables_hiddenOrbs :
    let report := Filter.check hiddenOrbs
    let blocks := Filter.blocks hiddenOrbs
    let preview := Filter.preview hiddenOrbs (.ofBaseType "Orb")
    '\x1b' ∉ ("a.filter" : Text) ∧ (∀ d ∈ report.diagnostics, '\x1b' ∉ d.problem.message) ∧
      (∀ b ∈ blocks, ∀ c ∈ b.conditions, ∀ t ∈ c.value.texts, '\x1b' ∉ t) ∧
      '\x1b' ∉ preview.item.baseType ∧
      (report.table true "a.filter" false).withoutInks = report.table false "a.filter" false ∧
      (Listing.table true blocks).withoutInks =
        ("    1 Hide\n        BaseType == \"Chaos\" \"Orb\"\n" ++
          "        -> text    rgb(300, 0, 0)\n        -> beam Red (#FF0000)\n" : Text) ∧
      (preview.table true).withoutInks = preview.gappedTable "   " := by
  intro report blocks preview
  have hfile : '\x1b' ∉ ("a.filter" : Text) := by decide
  have hreport : ∀ d ∈ report.diagnostics, '\x1b' ∉ d.problem.message := by decide +kernel
  have hblocks : ∀ b ∈ blocks, ∀ c ∈ b.conditions, ∀ t ∈ c.value.texts, '\x1b' ∉ t := by
    decide +kernel
  have hitem : '\x1b' ∉ preview.item.baseType := by decide +kernel
  obtain ⟨hreadReport, hreadBlocks, -, hreadPreview, -⟩ :=
    withoutInks_tables "a.filter" false report blocks preview hfile hreport hblocks hitem
  refine ⟨hfile, hreport, hblocks, hitem, hreadReport, hreadBlocks.trans ?_, hreadPreview⟩
  decide +kernel

end LootFilter
