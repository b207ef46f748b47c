import LootFilter.Proofs.Condition.Display
import LootFilter.Proofs.Report.Findings
import LootFilter.Proofs.Report.LineOrder

/-!
# Names in quotes

Any names can be asked for, as long as they are written between quotes and hold none themselves. The
names may look like operators, keywords or numbers: the rest of the line begins with a quote, so no
operator is split off, and what stands between quotes is not cut at blanks. Blanks around a name do
not belong to it.
A line of names asks for any one of them. So it can be told from the lines of the single names, and
neither the order of the names nor how often they are written plays a part. Such a line passes the
check: in a block, no finding stands on it, as it is a condition of its block.

## Main definitions

* `Text.IsQuotable` — names that can be written between quotes
* `Condition.namesLine` — a text property and names in quotes, in a line
* `Condition.oneOf` — the condition that a text property has one of some names

## Main results

* `Condition.ofLine?_namesLine` — a line of names is read as the names, whatever they look like
* `Condition.holds_oneOf_iff` — one of some names is one of them alone
* `Filter.line_ne_of_mem_check` — a condition line without problems has no finding
* `Filter.namesLine_contributes_and_matches` — lines of names in filters
-/

namespace LootFilter

namespace Text

/-- A name that can be written between quotes. It is not blank, and it holds no quote, no comment
sign and no line feed. -/
structure IsQuotable (name : Text) : Prop where
  not_blank : name.isBlankText = false
  quote_not_mem : '"' ∉ name
  comment_not_mem : '#' ∉ name
  newline_not_mem : '\n' ∉ name

variable {name t raw : Text} {n : Nat}

instance : Decidable name.IsQuotable :=
  decidable_of_iff (name.isBlankText = false ∧ '"' ∉ name ∧ '#' ∉ name ∧ '\n' ∉ name)
    ⟨fun ⟨hblank, hquote, hcomment, hnewline⟩ => ⟨hblank, hquote, hcomment, hnewline⟩,
      fun h => ⟨h.not_blank, h.quote_not_mem, h.comment_not_mem, h.newline_not_mem⟩⟩

theorem IsQuotable.trim_ne_nil (h : name.IsQuotable) : trim name ≠ [] := by
  intro hnil
  have hblank := isBlankText_iff.2 hnil
  rw [h.not_blank] at hblank
  exact absurd hblank Bool.false_ne_true

/-- A numbered line stands behind as many lines as its number tells. -/
theorem exists_lines_eq_of_mem_numberedLines (h : (raw, n) ∈ numberedLines t) :
    ∃ ls ms, lines t = ls ++ raw :: ms ∧ n = ls.length + 1 := by
  obtain ⟨hpos, hget⟩ := List.mk_mem_zipIdx_iff_le_and_getElem?_sub.1 h
  obtain ⟨hlt, rfl⟩ := List.getElem?_eq_some_iff.1 hget
  refine ⟨(lines t).take (n - 1), (lines t).drop (n - 1 + 1), ?_, ?_⟩
  · rw [← List.drop_eq_getElem_cons hlt, List.take_append_drop]
  · rw [List.length_take_of_le hlt.le]
    omega

end Text

/-- The symbols of operators hold no quote. -/
theorem Operator.ofSymbol?_cons_quote (t : Text) : ofSymbol? ('"' :: t) = none := by
  rw [Option.eq_none_iff_forall_ne_some]
  intro o ho
  have hsymbol := Operator.ofSymbol?_eq_some_iff.1 ho
  cases o <;> exact absurd (List.cons.inj hsymbol).1 (by decide)

namespace Condition

variable {p : TextProperty} {names : List Text} {i : Item} {t : Text}

/-- A text property and names in quotes, in a line. -/
def namesLine (p : TextProperty) (names : List Text) : Text :=
  p.keyword ++ " " ++ Text.joined " " (names.map Value.quoted)

/-- The condition that a text property has one of some names. -/
def oneOf (p : TextProperty) (names : List Text) : Condition :=
  ⟨.text p, .equal, .list (names.map Text.trim)⟩

/-! ### The line -/

theorem namesLine_eq (p : TextProperty) (names : List Text) :
    namesLine p names = p.keyword ++ ' ' :: Text.joined " " (names.map Value.quoted) := by
  simp [namesLine]

theorem firstWord?_namesLine (p : TextProperty) (hne : names ≠ []) :
    Text.firstWord? (namesLine p names) =
      some (p.keyword, Text.joined " " (names.map Value.quoted)) := by
  have htidy := Value.isTidy_joined_quoted hne
  have hfirst := Text.firstWord?_append_space (isBlank_of_mem_keyword (p := .text p))
    (keyword_ne_nil (.text p)) (Text.joined " " (names.map Value.quoted))
  rw [htidy.trim_eq] at hfirst
  rw [namesLine_eq]
  exact hfirst

theorem isTidy_namesLine (p : TextProperty) (hne : names ≠ []) : (namesLine p names).IsTidy := by
  have hkeyword : p.keyword.IsTidy :=
    Text.isTidy_of_forall_not_isBlank (isBlank_of_mem_keyword (p := .text p))
      (keyword_ne_nil (.text p))
  rw [namesLine_eq]
  exact hkeyword.append_space (Value.isTidy_joined_quoted hne)

/-- What a line of names holds beside its keyword are blanks, quotes and the names. -/
theorem not_mem_namesLine {c : Char} (hkeyword : c ∉ p.keyword) (hspace : c ≠ ' ')
    (hquote : c ≠ '"') (hnames : ∀ n ∈ names, c ∉ n) : c ∉ namesLine p names := by
  rw [namesLine_eq, List.mem_append, List.mem_cons, not_or, not_or]
  refine ⟨hkeyword, hspace, fun hmem => ?_⟩
  rcases Text.mem_joined hmem with hmem | ⟨t, ht, hmem⟩
  · exact hspace (List.mem_singleton.1 hmem)
  · obtain ⟨n, hn, rfl⟩ := List.mem_map.1 ht
    simp only [Value.quoted, List.cons_append, List.mem_cons, List.mem_append, List.not_mem_nil,
      or_false] at hmem
    rcases hmem with hmem | hmem | hmem
    · exact hquote hmem
    · exact hnames n hn hmem
    · exact hquote hmem

theorem withoutComment_namesLine (p : TextProperty) (hne : names ≠ [])
    (h : ∀ n ∈ names, n.IsQuotable) :
    Text.withoutComment (namesLine p names) = namesLine p names := by
  have hcomment : '#' ∉ namesLine p names :=
    not_mem_namesLine (by cases p <;> decide) (by decide) (by decide)
      fun n hn => (h n hn).comment_not_mem
  have hkeep : ∀ c ∈ namesLine p names, decide (c ≠ '#') = true := by
    intro c hc
    refine decide_eq_true ?_
    rintro rfl
    exact hcomment hc
  rw [Text.withoutComment, List.takeWhile_eq_self_iff.2 hkeep, (isTidy_namesLine p hne).trim_eq]

/-- In a text, a line of names is a line. -/
theorem lines_append_namesLine (p : TextProperty) (hne : names ≠ [])
    (h : ∀ n ∈ names, n.IsQuotable) (ht : Text.EndsLine t) (u : Text) :
    Text.lines (t ++ namesLine p names ++ '\n' :: u) =
      Text.lines t ++ namesLine p names :: Text.lines u := by
  have hnewline : '\n' ∉ namesLine p names :=
    not_mem_namesLine (by cases p <;> decide) (by decide) (by decide)
      fun n hn => (h n hn).newline_not_mem
  have hreturn : (namesLine p names).getLast? ≠ some '\r' := by
    intro hlast
    have := (isTidy_namesLine p hne).isBlank_of_mem_getLast? hlast
    exact absurd this (by decide)
  rw [List.append_assoc, Text.lines_append ht, Text.lines_append_newline hnewline,
    Text.dropReturn_reverse hreturn, List.reverse_reverse]

/-! ### What is read -/

/-- No operator is split off in front of a quote. -/
theorem splitOperator_cons_quote (h : Text.IsTidy ('"' :: t)) :
    splitOperator ('"' :: t) = (none, '"' :: t) := by
  have hfirst : Text.firstWord? ('"' :: t) = some ('"' :: t.takeWhile (!isBlank ·),
      Text.trimStart (t.dropWhile (!isBlank ·))) := by
    have hquote : isBlank '"' = false := by decide
    unfold Text.firstWord?
    rw [h.trim_eq]
    simp [hquote]
  simp only [splitOperator, hfirst, Operator.ofSymbol?_cons_quote]

/-- Names in quotes begin with a quote. -/
theorem exists_joined_quoted_eq_cons (hne : names ≠ []) :
    ∃ t, Text.joined " " (names.map Value.quoted) = '"' :: t := by
  cases names with
  | nil => exact absurd rfl hne
  | cons n names =>
    cases names with
    | nil => exact ⟨_, rfl⟩
    | cons m names =>
      rw [Value.joined_quoted_cons_cons]
      exact ⟨_, rfl⟩

theorem splitOperator_joined_quoted (hne : names ≠ []) :
    splitOperator (Text.joined " " (names.map Value.quoted)) =
      (none, Text.joined " " (names.map Value.quoted)) := by
  obtain ⟨t, ht⟩ := exists_joined_quoted_eq_cons hne
  have htidy := Value.isTidy_joined_quoted hne
  rw [ht] at htidy ⊢
  exact splitOperator_cons_quote htidy

/-- A line of names is read as the names, whatever they look like. -/
theorem ofLine?_namesLine (p : TextProperty) (hne : names ≠ [])
    (h : ∀ n ∈ names, Text.trim n ≠ [] ∧ '"' ∉ n) :
    ofLine? (namesLine p names) = some (oneOf p names) := by
  rw [ofLine?_text (firstWord?_namesLine p hne), ofTextRest?, splitOperator_joined_quoted hne]
  simp only [Value.ofText?_joined_quoted hne h]
  rfl

/-! ### What is met -/

/-- A value of several alternatives agrees with an item if one of them does. -/
theorem matchesText_eq_any (p : TextProperty) (v : Value) (i : Item) :
    matchesText p v i = v.alternatives.any fun a => matchesText p (.text a) i := by
  unfold matchesText
  cases i.text? p with
  | none => simp
  | some actual =>
    dsimp only
    split_ifs <;> simp [namesCurrency, agreesWithAny, Value.alternatives]

/-- One of some names is one of them alone. -/
theorem holds_oneOf_iff :
    (oneOf p names).holds i = true ↔ ∃ n ∈ names, (oneOf p [n]).holds i = true := by
  change matchesText p (.list (names.map Text.trim)) i = true ↔
    ∃ n ∈ names, matchesText p (.list [Text.trim n]) i = true
  simp only [matchesText_eq_any p (.list _), Value.alternatives, List.any_map, List.any_eq_true,
    List.any_cons, List.any_nil, Bool.or_false, Function.comp_apply]

end Condition

/-! ### The check -/

namespace Check

variable {place : Place} {n : Nat} {raw : Text} {ls ms : List Text} {d : Diagnostic}

/-- A quote among the names keeps the check from taking the words for alternatives. -/
theorem textProblems_of_quote_mem {p : TextProperty} {rest : Text}
    (h : '"' ∈ (Condition.splitOperator rest).2) : textProblems p rest = [] := by
  simp [textProblems, h]

theorem lineProblems_namesLine (p : TextProperty) {names : List Text} (hne : names ≠ []) :
    lineProblems (Condition.namesLine p names) = [] := by
  have hquote : '"' ∈ (Condition.splitOperator (Text.joined " " (names.map Value.quoted))).2 := by
    rw [Condition.splitOperator_joined_quoted hne]
    obtain ⟨t, ht⟩ := Condition.exists_joined_quoted_eq_cons hne
    exact ht ▸ List.mem_cons_self
  have hproblems : lineProblems (Condition.namesLine p names) =
      propertyProblems (.text p) (Text.joined " " (names.map Value.quoted)) := by
    rw [lineProblems, Condition.firstWord?_namesLine p hne]
    exact keywordProblems_property (.text p) _
  rw [hproblems]
  cases p with
  | rarity => rfl
  | itemClass => exact textProblems_of_quote_mem hquote
  | baseType => exact textProblems_of_quote_mem hquote

/-- Once in a block, the pass stays in blocks. -/
theorem Place.behind_ne_outside (h : place ≠ .outside) (ls : List Text) :
    place.behind ls ≠ .outside := by
  induction ls generalizing place with
  | nil => exact h
  | cons raw rest ih =>
    refine ih ?_
    unfold next
    split_ifs
    · simp
    · cases place with
      | outside => exact absurd rfl h
      | inside hasCondition => simp [after]

/-- Behind a header the pass is in a block. -/
theorem Place.behind_ne_outside_of_isHeader (hraw : raw ∈ ls) (hheader : Line.isHeader raw = true)
    (place : Place) : place.behind ls ≠ .outside := by
  obtain ⟨above, below, rfl⟩ := List.append_of_mem hraw
  rw [behind_append]
  change ((place.behind above).next raw).behind below ≠ .outside
  rw [next_of_isHeader hheader]
  exact behind_ne_outside (by simp) below

/-- Behind a condition of a block, the pass does not look back at it. -/
theorem lt_line_of_mem_findingsFrom_inside (hd : d ∈ findingsFrom (.inside true) n ls) :
    n < d.line := by
  cases ls with
  | nil => exact absurd hd List.not_mem_nil
  | cons raw rest =>
    rcases List.mem_append.1 hd with hd | hd
    · have hline := Place.line_of_mem_findings hd
      split_ifs at hline with hheader
      · -- at a header there is a finding only on a block without a condition
        rw [Place.findings_of_isHeader hheader] at hd
        exact absurd (Place.mem_atHeader_iff.1 hd).1 (by decide)
      · omega
    · have := (line_of_mem_findingsFrom hd).1
      omega

end Check

namespace Filter

variable {filter raw : Text} {ls ms : List Text} {d : Diagnostic}

/-- In a block, a line that begins like a condition and has no problem has no finding. -/
theorem line_ne_of_mem_check (hlines : Text.lines filter = ls ++ raw :: ms)
    (hblock : ∃ header ∈ ls, Line.isHeader header = true) (hheader : Line.isHeader raw = false)
    (hbegins : Line.beginsCondition raw = true)
    (hproblems : Check.lineProblems (Text.withoutComment raw) = [])
    (hd : d ∈ (check filter).diagnostics) : d.line ≠ ls.length + 1 := by
  obtain ⟨header, hmem, hisHeader⟩ := hblock
  have hplace := Check.Place.behind_ne_outside_of_isHeader hmem hisHeader .outside
  obtain ⟨hasCondition, hinside⟩ : ∃ b, Check.Place.outside.behind ls = .inside b := by
    cases hbehind : Check.Place.outside.behind ls with
    | outside => exact absurd hbehind hplace
    | inside b => exact ⟨b, rfl⟩
  have hnone : (Check.Place.inside hasCondition).findings (0 + ls.length + 1) raw = [] := by
    simp [Check.Place.findings, hheader, Check.Place.atLine, hproblems]
  have hnext : (Check.Place.inside hasCondition).next raw = .inside true := by
    rw [Check.Place.next, hheader, Check.Place.after, Check.namesProperty_withoutComment, hbegins,
      Bool.or_true]
    rfl
  rw [check_eq, hlines, Check.findingsFrom_append, Check.findingsFrom, hinside, hnone, hnext,
    Check.Place.behind_append, hinside] at hd
  rcases List.mem_append.1 hd with hd | hd
  · rcases List.mem_append.1 hd with hd | hd
    · have := (Check.line_of_mem_findingsFrom hd).2
      omega
    · have := Check.lt_line_of_mem_findingsFrom_inside hd
      omega
  · -- a closing finding stands on the last line, and that is another one
    obtain ⟨hlacks, rfl⟩ := Check.Place.mem_atEnd_iff.1 hd
    cases ms with
    | nil =>
      have hbehind : (Check.Place.inside hasCondition).behind [raw] = .inside true := hnext
      rw [hbehind] at hlacks
      exact absurd hlacks (by decide)
    | cons below ms =>
      simp only [List.length_append, List.length_cons]
      omega

/-- The header of a block is among the lines above any later line. -/
theorem exists_isHeader_above {b : Block} (hb : b ∈ blocks filter)
    (hlines : Text.lines filter = ls ++ raw :: ms) (hline : b.line < ls.length + 1) :
    ∃ header ∈ ls, Line.isHeader header = true := by
  obtain ⟨header, hmem, hkeyword⟩ := exists_header hb
  obtain ⟨hpos, hget⟩ := List.mk_mem_zipIdx_iff_le_and_getElem?_sub.1 hmem
  rw [hlines, List.getElem?_append_left (by omega)] at hget
  refine ⟨header, List.mem_of_getElem? hget, ?_⟩
  rw [Line.isHeader, Visibility.ofLine?_eq_some_iff.2 hkeyword]
  rfl

open Condition (namesLine oneOf)

variable {p : TextProperty} {names : List Text}

theorem condition?_namesLine (hne : names ≠ []) (h : ∀ n ∈ names, n.IsQuotable) :
    Line.condition? (namesLine p names) = some (oneOf p names) := by
  rw [Line.condition?_eq, Condition.withoutComment_namesLine p hne h]
  exact Condition.ofLine?_namesLine p hne fun n hn => ⟨(h n hn).trim_ne_nil, (h n hn).quote_not_mem⟩

/-- A line that stands for a condition is no header. -/
theorem isHeader_eq_false_of_condition? {c : Condition} (h : Line.condition? raw = some c) :
    Line.isHeader raw = false := by
  by_contra hheader
  obtain ⟨v, hv⟩ := Option.isSome_iff_exists.1 (by simpa using hheader : Line.isHeader raw = true)
  have hnone : Condition.ofLine? v.keyword = none := by cases v <;> decide
  rw [Line.condition?_eq, Text.withoutComment_of_ofLine? hv, hnone] at h
  exact absurd h (by simp)

/-- A line that stands for a condition begins like one. -/
theorem beginsCondition_of_condition? {c : Condition} (h : Line.condition? raw = some c) :
    Line.beginsCondition raw = true := by
  rw [Line.condition?_eq] at h
  rw [Line.beginsCondition]
  rcases Condition.ofLine?_eq_some_iff.1 h with ⟨p, rest, hfirst, -⟩ | ⟨p, rest, hfirst, -⟩
  · rw [Text.words_of_firstWord? hfirst]
    exact congrArg Option.isSome (Property.ofKeyword?_keyword (.text p))
  · rw [Text.words_of_firstWord? hfirst]
    exact congrArg Option.isSome (Property.ofKeyword?_keyword (.number p))

/-- **Names in quotes.** Let some names be written between quotes behind the keyword of a text
property, at least one of them. Put below a text that ends a line, this is a line, and in a block it
contributes one condition, with the names in order and without the blanks around them. The condition
holds for an item exactly if the line of one of the names alone stands for a condition that holds,
so lines with the same names, in whatever order and however often, hold for the same items. The
check finds no problem in the line, and in a block no finding stands on it. -/
theorem namesLine_contributes_and_matches (p : TextProperty) (hne : names ≠ [])
    (h : ∀ n ∈ names, n.IsQuotable) :
    (∀ t u, Text.EndsLine t → Text.lines (t ++ namesLine p names ++ '\n' :: u) =
        Text.lines t ++ namesLine p names :: Text.lines u) ∧
      (∀ filter, ∀ b ∈ blocks filter, ∀ above below,
        body filter b = above ++ namesLine p names :: below →
        b.conditions = above.filterMap Line.condition? ++
          oneOf p names :: below.filterMap Line.condition?) ∧
      (∀ i, (oneOf p names).holds i = true ↔
        ∃ n ∈ names, ∃ c, Condition.ofLine? (namesLine p [n]) = some c ∧ c.holds i = true) ∧
      (∀ names', (∀ n, n ∈ names' ↔ n ∈ names) →
        ∃ c, Condition.ofLine? (namesLine p names') = some c ∧
          ∀ i, c.holds i = (oneOf p names).holds i) ∧
      Check.lineProblems (namesLine p names) = [] ∧
      ∀ filter, ∀ b ∈ blocks filter, ∀ n, (namesLine p names, n) ∈ Text.numberedLines filter →
        b.line < n → ∀ d ∈ (check filter).diagnostics, d.line ≠ n := by
  have hread : ∀ ns : List Text, ns ≠ [] → (∀ n ∈ ns, n ∈ names) →
      Condition.ofLine? (namesLine p ns) = some (oneOf p ns) := by
    intro ns hns hsub
    refine Condition.ofLine?_namesLine p hns fun n hn => ?_
    exact ⟨(h n (hsub n hn)).trim_ne_nil, (h n (hsub n hn)).quote_not_mem⟩
  have hcondition := condition?_namesLine (p := p) hne h
  refine ⟨?_, ?_, ?_, ?_, Check.lineProblems_namesLine p hne, ?_⟩
  · exact fun t u ht => Condition.lines_append_namesLine p hne h ht u
  · intro filter b hb above below hbody
    rw [conditions_eq hb, hbody, List.filterMap_append, List.filterMap_cons_some hcondition]
  · intro i
    refine Condition.holds_oneOf_iff.trans (exists_congr fun n => and_congr_right fun hn => ?_)
    rw [hread [n] (List.cons_ne_nil n []) (by simpa using hn)]
    simp
  · intro names' hsame
    have hne' : names' ≠ [] := by
      obtain ⟨n, hn⟩ := List.exists_mem_of_ne_nil names hne
      exact List.ne_nil_of_mem ((hsame n).2 hn)
    refine ⟨_, hread names' hne' fun n hn => (hsame n).1 hn, fun i => ?_⟩
    rw [Bool.eq_iff_iff]
    refine Condition.holds_oneOf_iff.trans (Iff.trans ?_ Condition.holds_oneOf_iff.symm)
    simp only [hsame]
  · intro filter b hb n hn hlt d hd
    obtain ⟨ls, ms, hlines, rfl⟩ := Text.exists_lines_eq_of_mem_numberedLines hn
    refine line_ne_of_mem_check hlines (exists_isHeader_above hb hlines hlt)
      (isHeader_eq_false_of_condition? hcondition) (beginsCondition_of_condition? hcondition) ?_ hd
    rw [Condition.withoutComment_namesLine p hne h]
    exact Check.lineProblems_namesLine p hne

/-- Two names, one with a blank in front and one that looks like an operator and a number. -/
def orbAndOperator : List Text := [" Chaos Orb", ">= 5"]

/-- A block with a line of these names. -/
def orbAndOperatorBlock : Text := "Show\n\tRarity Rare\nBaseType \" Chaos Orb\" \">= 5\"\n"

/-- Both names are asked for, and nothing is found on their line. -/
theorem namesLine_contributes_and_matches_orbAndOperator :
    orbAndOperator ≠ [] ∧ (∀ n ∈ orbAndOperator, n.IsQuotable) ∧
      (namesLine .baseType orbAndOperator, 3) ∈ Text.numberedLines orbAndOperatorBlock ∧
      (∃ b ∈ blocks orbAndOperatorBlock, b.conditions =
        [⟨.text .rarity, .equal, .text "Rare"⟩,
          ⟨.text .baseType, .equal, .list ["Chaos Orb", ">= 5"]⟩]) ∧
      (oneOf .baseType orbAndOperator).holds (.ofBaseType "chaos orb") = true ∧
      ∀ d ∈ (check orbAndOperatorBlock).diagnostics, d.line ≠ 3 := by
  have hne : orbAndOperator ≠ [] := by decide
  have hnames : ∀ n ∈ orbAndOperator, n.IsQuotable := by decide
  obtain ⟨-, hconditions, hholds, -, -, hfindings⟩ :=
    namesLine_contributes_and_matches .baseType hne hnames
  have hline : (namesLine .baseType orbAndOperator, 3) ∈
      Text.numberedLines orbAndOperatorBlock := by
    decide
  obtain ⟨b, hb, hbline⟩ : ∃ b ∈ blocks orbAndOperatorBlock, b.line = 1 := by decide
  have hbody : ∀ b ∈ blocks orbAndOperatorBlock, body orbAndOperatorBlock b =
      [("\tRarity Rare" : Text)] ++ namesLine .baseType orbAndOperator :: [] := by
    decide
  refine ⟨hne, hnames, hline, ⟨b, hb, ?_⟩, ?_, hfindings _ b hb 3 hline (by omega)⟩
  · rw [hconditions _ b hb _ _ (hbody b hb)]
    decide
  · exact (hholds _).2 ⟨_, List.mem_cons_self, _, Condition.ofLine?_namesLine .baseType
      (by decide) (by decide), by decide⟩

end Filter

end LootFilter
