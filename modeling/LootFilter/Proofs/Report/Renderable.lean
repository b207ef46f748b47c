import LootFilter.Proofs.Filter.Directives
import LootFilter.Proofs.Report.Findings
import Mathlib.Data.List.Basic

/-!
# Renderable styles

Reading directives is lenient: any integer is taken, and a line that is not understood sets nothing.
The ranges of what can be drawn are known to the check alone. A filter in which the check finds no
error has nevertheless only styles that can be drawn, and no directive of it is passed over: each
line that begins like a directive sets what it spells. Beams that only flash are the one exception.

The styles of blocks are accumulated line by line, so the claim on them needs an invariant: the
default style can be drawn, and a directive without errors keeps what can be drawn.

## Main definitions

* `Color.IsRenderable`, `Style.IsRenderable`, `Directive.IsRenderable` — what can be drawn
* `Directive.IsSpelled` — the directive that a keyword and its arguments spell
* `Directive.isTemporary` — whether a keyword and its arguments ask for a beam that only flashes

## Main results

* `Style.isRenderable_foldl` — directives that can be drawn keep a style that can be drawn
* `Check.classify_of_noErrors` — a directive line without errors sets what it spells
* `Filter.isRenderable_and_isSpelled_of_isValid` — styles and directives of a filter without errors
-/

namespace LootFilter

/-- A colour that can be drawn. -/
structure Color.IsRenderable (c : Color) : Prop where
  red : 0 ≤ c.red ∧ c.red ≤ 255
  green : 0 ≤ c.green ∧ c.green ≤ 255
  blue : 0 ≤ c.blue ∧ c.blue ≤ 255
  /-- Opaque colours have no alpha, so 255 is not among the values. -/
  alpha : ∀ a ∈ c.alpha, 0 ≤ a ∧ a ≤ 254

/-- A style that can be drawn. -/
structure Style.IsRenderable (s : Style) : Prop where
  fontSize : 18 ≤ s.fontSize ∧ s.fontSize ≤ 45
  textColor : s.textColor.IsRenderable
  borderColor : s.borderColor.IsRenderable
  backgroundColor : s.backgroundColor.IsRenderable

/-- A directive that sets something that can be drawn. -/
def Directive.IsRenderable : Directive → Prop
  | .fontSize size => 18 ≤ size ∧ size ≤ 45
  | .textColor color | .borderColor color | .backgroundColor color => color.IsRenderable
  | .beam _ => True

/-- The directive that sets a colour. -/
def ColorDirective.directive : ColorDirective → Color → Directive
  | .textColor => .textColor
  | .borderColor => .borderColor
  | .backgroundColor => .backgroundColor

namespace Directive

/-- The directive that a keyword and its arguments spell: it carries the numbers or the colour that
are written there, the numbers in decimal digits with or without a sign. -/
inductive IsSpelled : Text → List Text → Directive → Prop
  /-- Of the arguments of `SetFontSize`, the first is the size. -/
  | fontSize {word : Text} {more : List Text} {size : Int} (h : Literal.Writes word size) :
      IsSpelled "SetFontSize" (word :: more) (.fontSize size)
  /-- Three channels make an opaque colour. -/
  | color (d : ColorDirective) {red green blue : Text} {r g b : Int}
      (hr : Literal.Writes red r) (hg : Literal.Writes green g) (hb : Literal.Writes blue b) :
      IsSpelled d.keyword [red, green, blue] (d.directive ⟨r, g, b, none⟩)
  /-- A fourth channel is the alpha, unless it means opaque. -/
  | colorWithAlpha (d : ColorDirective) {red green blue alpha : Text} {r g b a : Int}
      (hr : Literal.Writes red r) (hg : Literal.Writes green g) (hb : Literal.Writes blue b)
      (ha : Literal.Writes alpha a) :
      IsSpelled d.keyword [red, green, blue, alpha]
        (d.directive ⟨r, g, b, if a = 255 then none else some a⟩)
  /-- The first argument of `PlayEffect` names a colour of the palette. -/
  | beam (b : Beam) {flags : List Text} : IsSpelled "PlayEffect" (b.name :: flags) (.beam b)

/-- Whether a keyword and its arguments ask for a beam that only flashes. -/
def isTemporary (keyword : Text) (arguments : List Text) : Bool :=
  keyword == "PlayEffect" && arguments[1]?.any (Text.sameIgnoringAsciiCase "temp")

end Directive

/-! ### The accumulated style -/

namespace Style

theorem isRenderable_default : Style.default.IsRenderable := by
  have hblack : (Color.rgb 0 0 0).IsRenderable := ⟨by decide, by decide, by decide, by decide⟩
  exact ⟨by decide, ⟨by decide, by decide, by decide, by decide⟩, hblack, hblack⟩

/-- A directive that can be drawn keeps what can be drawn. -/
theorem isRenderable_apply {s : Style} {d : Directive} (hs : s.IsRenderable)
    (hd : d.IsRenderable) : (s.apply d).IsRenderable := by
  cases d with
  | fontSize size => exact { hs with fontSize := hd }
  | textColor color => exact { hs with textColor := hd }
  | borderColor color => exact { hs with borderColor := hd }
  | backgroundColor color => exact { hs with backgroundColor := hd }
  | beam color => exact { hs with }

theorem isRenderable_foldl {s : Style} {ds : List Directive} (hs : s.IsRenderable)
    (hds : ∀ d ∈ ds, d.IsRenderable) : (ds.foldl apply s).IsRenderable := by
  induction ds generalizing s with
  | nil => exact hs
  | cons d ds ih =>
    have happly := isRenderable_apply hs (hds d List.mem_cons_self)
    exact ih happly fun e he => hds e (List.mem_cons_of_mem d he)

end Style

/-! ### Keywords and arguments -/

namespace Directive

variable {keyword : Text} {arguments : List Text}

theorem cases_of_mem_keywords (h : keyword ∈ keywords) :
    keyword = "SetFontSize" ∨ (∃ d : ColorDirective, keyword = d.keyword) ∨
      keyword = "PlayEffect" := by
  simp only [keywords, List.mem_cons, List.not_mem_nil, or_false] at h
  rcases h with h | h | h | h | h
  · exact Or.inl h
  · exact Or.inr (Or.inl ⟨.textColor, h⟩)
  · exact Or.inr (Or.inl ⟨.borderColor, h⟩)
  · exact Or.inr (Or.inl ⟨.backgroundColor, h⟩)
  · exact Or.inr (Or.inr h)

theorem ofWords?_color (d : ColorDirective) (arguments : List Text) :
    ofWords? d.keyword arguments = (Color.ofChannels? arguments).map d.directive := by
  cases d <;> rfl

theorem isTemporary_color (d : ColorDirective) (arguments : List Text) :
    isTemporary d.keyword arguments = false := by
  cases d <;> rfl

end Directive

namespace Check

variable {line keyword rest : Text} {arguments : List Text}

/-- A colour without errors is read as the colour that its channels spell. -/
theorem exists_color_of_noErrors {d : ColorDirective} (h : NoErrors (colorProblems d rest)) :
    ∃ c, Color.ofChannels? (Text.words rest) = some c ∧
      Directive.IsSpelled d.keyword (Text.words rest) (d.directive c) ∧ c.IsRenderable := by
  obtain ⟨hcount, hchannels⟩ := color_of_noErrors h
  rcases hcount with hcount | hcount
  · obtain ⟨red, green, blue, hwords⟩ := List.length_eq_three.1 hcount
    rw [hwords] at hchannels ⊢
    obtain ⟨r, hr, hr'⟩ := hchannels red (by simp)
    obtain ⟨g, hg, hg'⟩ := hchannels green (by simp)
    obtain ⟨b, hb, hb'⟩ := hchannels blue (by simp)
    have hspelled := Directive.IsSpelled.color d (Literal.integer?_eq_some_iff.mp hr)
      (Literal.integer?_eq_some_iff.mp hg) (Literal.integer?_eq_some_iff.mp hb)
    refine ⟨⟨r, g, b, none⟩, ?_, hspelled, ⟨hr', hg', hb', by simp⟩⟩
    simp [Color.ofChannels?, hr, hg, hb, Color.rgb]
  · obtain ⟨red, green, blue, alpha, hwords⟩ := List.length_eq_four.1 hcount
    rw [hwords] at hchannels ⊢
    obtain ⟨r, hr, hr'⟩ := hchannels red (by simp)
    obtain ⟨g, hg, hg'⟩ := hchannels green (by simp)
    obtain ⟨b, hb, hb'⟩ := hchannels blue (by simp)
    obtain ⟨a, ha, ha'⟩ := hchannels alpha (by simp)
    have hspelled := Directive.IsSpelled.colorWithAlpha d (Literal.integer?_eq_some_iff.mp hr)
      (Literal.integer?_eq_some_iff.mp hg) (Literal.integer?_eq_some_iff.mp hb)
      (Literal.integer?_eq_some_iff.mp ha)
    refine ⟨⟨r, g, b, if a = 255 then none else some a⟩, ?_, hspelled, ⟨hr', hg', hb', ?_⟩⟩
    · have hrgba : Color.rgba r g b a = ⟨r, g, b, if a = 255 then none else some a⟩ := rfl
      simp [Color.ofChannels?, hr, hg, hb, ha, hrgba]
    · intro a' hmem
      split_ifs at hmem with hopaque
      · exact absurd hmem (by simp)
      · obtain rfl := Option.some.inj hmem
        omega

/-- A beam without errors is read as the colour that is named, unless it only flashes. -/
theorem beam_of_words (b : Beam) (flags : List Text) :
    Directive.ofWords? "PlayEffect" (b.name :: flags) =
      if Directive.isTemporary "PlayEffect" (b.name :: flags) then none else some (.beam b) := by
  have h : Directive.ofWords? "PlayEffect" (b.name :: flags) =
      Directive.beamOfArguments? (b.name :: flags) := rfl
  rw [h, Directive.beamOfArguments?, Beam.ofName?_name]
  cases flags <;> rfl

/-- A line without errors that begins like a directive sets what it spells, and what it sets can be
drawn. Only beams that flash are passed over. -/
theorem classify_of_noErrors (htrim : Text.trim line = line)
    (hwords : Text.words line = keyword :: arguments) (hkeyword : keyword ∈ Directive.keywords)
    (h : NoErrors (lineProblems line)) :
    if Directive.isTemporary keyword arguments then Line.classify line = .other
    else ∃ d, Line.classify line = .directive d ∧ Directive.IsSpelled keyword arguments d ∧
      d.IsRenderable := by
  obtain ⟨rest, -, rfl, hproblems⟩ := lineProblems_of_words hwords
  rw [hproblems] at h
  rw [Line.classify_of_mem_keywords htrim hwords hkeyword]
  rcases Directive.cases_of_mem_keywords hkeyword with rfl | ⟨d, rfl⟩ | rfl
  · -- a size: words behind the first one are read by neither side
    rw [keywordProblems_fontSize] at h
    obtain ⟨word, more, n, hrest, hn, hrange⟩ := fontSize_of_noErrors h
    have hread : Directive.ofWords? "SetFontSize" (word :: more) =
        (Literal.integer? word).map .fontSize := rfl
    rw [hrest, hread, hn]
    exact ⟨.fontSize n, rfl, .fontSize (Literal.integer?_eq_some_iff.mp hn), hrange⟩
  · rw [keywordProblems_color] at h
    obtain ⟨c, hc, hspelled, hrange⟩ := exists_color_of_noErrors h
    rw [Directive.isTemporary_color, Directive.ofWords?_color, hc]
    refine ⟨d.directive c, rfl, hspelled, ?_⟩
    cases d <;> exact hrange
  · -- a beam: the check does not look at the word behind the colour
    rw [keywordProblems_beam] at h
    obtain ⟨b, flags, hrest⟩ := beam_of_noErrors h
    rw [hrest, beam_of_words]
    split_ifs with htemporary
    · rfl
    · exact ⟨.beam b, rfl, .beam b, trivial⟩

/-- What a line without errors sets can be drawn. -/
theorem isRenderable_of_noErrors {raw : Text} {d : Directive}
    (h : NoErrors (lineProblems (Text.withoutComment raw))) (hd : Line.directive? raw = some d) :
    d.IsRenderable := by
  have hclassify := Line.classify_of_directive? hd
  -- a directive begins with a keyword, so what it sets is what the line spells
  obtain ⟨keyword, arguments, hwords, hkeyword, -⟩ :=
    Directive.exists_words_of_ofLine? ((Line.directive?_eq raw).symm.trans hd)
  have hread := classify_of_noErrors (Text.trim_withoutComment raw) hwords hkeyword h
  rw [hclassify] at hread
  split_ifs at hread
  obtain ⟨e, he, -, hrange⟩ := hread
  rwa [Line.directive.inj he]

end Check

/-! ### Filters without errors -/

namespace Filter

/-- **Styles of a filter without errors.** Every style can be drawn, and every line of a block that
begins with the keyword of a directive sets what it spells. Only beams that flash are passed
over. -/
theorem isRenderable_and_isSpelled_of_isValid {filter : Text}
    (h : (check filter).isValid = true) :
    (∀ b ∈ blocks filter, b.style.IsRenderable) ∧
      ∀ b ∈ blocks filter, ∀ raw ∈ body filter b, ∀ keyword arguments,
        Text.words (Text.withoutComment raw) = keyword :: arguments →
        keyword ∈ Directive.keywords →
        if Directive.isTemporary keyword arguments then
          Line.classify (Text.withoutComment raw) = .other
        else ∃ d, Line.classify (Text.withoutComment raw) = .directive d ∧
          Directive.IsSpelled keyword arguments d := by
  have hbody : ∀ b, ∀ raw ∈ body filter b,
      Check.NoErrors (Check.lineProblems (Text.withoutComment raw)) := by
    intro b raw hraw
    obtain ⟨hmem, hheader⟩ := of_mem_body hraw
    exact noErrors_of_isValid h hmem hheader
  constructor
  · intro b hb
    -- what can be drawn is the invariant of the pass over the lines of the block
    rw [style_eq hb]
    refine Style.isRenderable_foldl Style.isRenderable_default fun d hd => ?_
    obtain ⟨raw, hraw, hdirective⟩ := List.mem_filterMap.1 hd
    exact Check.isRenderable_of_noErrors (hbody b raw hraw) hdirective
  · intro b _ raw hraw keyword arguments hwords hkeyword
    have hread := Check.classify_of_noErrors (Text.trim_withoutComment raw) hwords hkeyword
      (hbody b raw hraw)
    split_ifs at hread ⊢
    · exact hread
    · obtain ⟨d, hd, hspelled, -⟩ := hread
      exact ⟨d, hd, hspelled⟩

/-- A filter that writes the alpha of an opaque colour. -/
def opaqueRed : Text := "Show\n\tRarity Rare\n\tSetTextColor 255 0 0 255 # red\n"

/-- The alpha of an opaque colour is written and not kept. -/
theorem isSpelled_opaque_red :
    (check opaqueRed).isValid = true ∧ (∀ b ∈ blocks opaqueRed, b.style.IsRenderable) ∧
      Line.classify (Text.withoutComment "\tSetTextColor 255 0 0 255 # red") =
        .directive (.textColor ⟨255, 0, 0, none⟩) ∧
      Directive.IsSpelled "SetTextColor" ["255", "0", "0", "255"]
        (.textColor ⟨255, 0, 0, none⟩) := by
  have hvalid : (check opaqueRed).isValid = true := by decide
  have hclassify : Line.classify (Text.withoutComment "\tSetTextColor 255 0 0 255 # red") =
      .directive (.textColor ⟨255, 0, 0, none⟩) := by decide
  obtain ⟨hstyles, hlines⟩ := isRenderable_and_isSpelled_of_isValid hvalid
  refine ⟨hvalid, hstyles, hclassify, ?_⟩
  obtain ⟨b, hb, hraw⟩ : ∃ b ∈ blocks opaqueRed,
      ("\tSetTextColor 255 0 0 255 # red" : Text) ∈ body opaqueRed b := by
    decide
  have hread := hlines b hb _ hraw "SetTextColor" ["255", "0", "0", "255"] (by decide) (by decide)
  rw [if_neg (by decide), hclassify] at hread
  obtain ⟨d, hd, hspelled⟩ := hread
  rwa [Line.directive.inj hd]

end Filter

end LootFilter
