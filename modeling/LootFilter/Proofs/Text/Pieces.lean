import LootFilter.Proofs.Text.Quoted

/-!
# The pieces of a text between its quotes

A text with `k` quotes has `k + 1` pieces, those in front of the quotes and the last one behind them
all. Quotes open and close in turn, whatever is between them. So the pieces with odd numbers stand
in quotes, but the last piece of all has no quote behind it.

This says where the segments of a text are without reading on from character to character. They are
the pieces with odd numbers, less the last one, as far as they are not blank. A blank piece counts
like any other one, so it does not move the ones behind it to other places.

## Main definitions

* `Text.enclosedPieces` — the pieces with odd numbers and a quote behind them

## Main results

* `Text.quoteInduction` — induction from one closed pair of quotes to the next
* `Text.quotedSegments_eq_enclosedPieces` — which of the pieces are segments
-/

namespace LootFilter.Text

variable {before segment t : Text}

/-- Texts end outside quotes or behind a quote that is not closed, unless there is a closed pair of
quotes in front of a shorter text. -/
@[elab_as_elim]
theorem quoteInduction {motive : Text → Prop}
    (outside : ∀ t, '"' ∉ t → motive t)
    (unclosed : ∀ before segment, '"' ∉ before → '"' ∉ segment →
      motive (before ++ '"' :: segment))
    (closed : ∀ before segment rest, '"' ∉ before → '"' ∉ segment → motive rest →
      motive (before ++ '"' :: (segment ++ '"' :: rest)))
    (t : Text) : motive t := by
  -- the rest behind a pair of quotes is shorter, but it is no tail that `induction` would find
  induction hlength : t.length using Nat.strongRecOn generalizing t with
  | ind n ih =>
    subst hlength
    by_cases hopen : '"' ∈ t
    · obtain ⟨before, behind, rfl, hbefore⟩ := List.eq_append_cons_of_mem hopen
      by_cases hclose : '"' ∈ behind
      · obtain ⟨segment, rest, rfl, hsegment⟩ := List.eq_append_cons_of_mem hclose
        apply closed before segment rest hbefore hsegment
        refine ih rest.length ?_ rest rfl
        simp only [List.length_append, List.length_cons]
        omega
      · exact unclosed before behind hbefore hclose
    · exact outside t hopen

/-- A closed pair of quotes puts two pieces in front of the others. -/
theorem splitOn_append_quoted (hb : '"' ∉ before) (hs : '"' ∉ segment) (rest : Text) :
    (before ++ '"' :: (segment ++ '"' :: rest)).splitOn '"' =
      before :: segment :: rest.splitOn '"' := by
  rw [List.splitOn_append_cons_self_of_not_mem hb, List.splitOn_append_cons_self_of_not_mem hs]

theorem count_append_quoted (hb : '"' ∉ before) (hs : '"' ∉ segment) (rest : Text) :
    (before ++ '"' :: (segment ++ '"' :: rest)).count '"' = rest.count '"' + 2 := by
  simp [List.count_eq_zero.2 hb, List.count_eq_zero.2 hs]

theorem count_append_unclosed (hb : '"' ∉ before) (hs : '"' ∉ segment) :
    (before ++ '"' :: segment).count '"' = 1 := by
  simp [List.count_eq_zero.2 hb, List.count_eq_zero.2 hs]

/-- The pieces of a text that stand between an opening and a closing quote. They are those with odd
numbers, less the one that has all quotes in front of it. -/
def enclosedPieces (t : Text) : List Text :=
  ((t.splitOn '"').zipIdx.filter fun (_, i) => i % 2 = 1 ∧ i < t.count '"').map (·.1)

theorem enclosedPieces_of_not_mem (h : '"' ∉ t) : enclosedPieces t = [] := by
  rw [enclosedPieces, List.splitOn_eq_singleton h]
  rfl

theorem enclosedPieces_unclosed (hb : '"' ∉ before) (hs : '"' ∉ segment) :
    enclosedPieces (before ++ '"' :: segment) = [] := by
  rw [enclosedPieces, count_append_unclosed hb hs, List.splitOn_append_cons_self_of_not_mem hb,
    List.splitOn_eq_singleton hs]
  rfl

/-- A closed pair of quotes adds the piece in between, and the pieces behind it stand in quotes as
they did before. -/
theorem enclosedPieces_append_quoted (hb : '"' ∉ before) (hs : '"' ∉ segment) (rest : Text) :
    enclosedPieces (before ++ '"' :: (segment ++ '"' :: rest)) =
      segment :: enclosedPieces rest := by
  -- two pieces and two quotes more, so a piece with an odd number keeps an odd number
  have hshift : ∀ pieces : List Text,
      ((pieces.zipIdx 2).filter fun (_, i) => i % 2 = 1 ∧ i < rest.count '"' + 2).map (·.1) =
        (pieces.zipIdx.filter fun (_, i) => i % 2 = 1 ∧ i < rest.count '"').map (·.1) := by
    intro pieces
    rw [List.zipIdx_eq_map_add, List.filter_map, List.map_map]
    congr 1
    apply List.filter_congr
    rintro ⟨piece, i⟩ -
    simp only [Function.comp, decide_eq_decide]
    omega
  calc enclosedPieces (before ++ '"' :: (segment ++ '"' :: rest))
      = segment :: (((rest.splitOn '"').zipIdx 2).filter fun (_, i) =>
          i % 2 = 1 ∧ i < rest.count '"' + 2).map (·.1) := by
        rw [enclosedPieces, count_append_quoted hb hs, splitOn_append_quoted hb hs]
        simp
    _ = segment :: enclosedPieces rest := by rw [hshift, enclosedPieces]

/-- The segments of a text are its pieces in quotes without the blanks around them, as far as
anything is left. -/
theorem quotedSegments_eq_enclosedPieces (t : Text) :
    quotedSegments t = ((enclosedPieces t).map trim).filter (· ≠ []) := by
  induction t using quoteInduction with
  | outside t h => rw [quotedSegments_of_not_mem h, enclosedPieces_of_not_mem h]; rfl
  | unclosed before segment hb hs =>
    rw [quotedSegments_unclosed hb hs, enclosedPieces_unclosed hb hs]; rfl
  | closed before segment rest hb hs ih =>
    rw [quotedSegments_append_quoted hb hs, enclosedPieces_append_quoted hb hs, List.map_cons]
    -- the pieces are trimmed and then chosen, the pass does both when a quote closes
    by_cases hblank : trim segment = []
    · rw [keepSegment_of_trim_eq_nil hblank, ih, List.filter_cons_of_neg (by simp [hblank])]
    · rw [keepSegment_of_trim_ne_nil hblank, ih, List.filter_cons_of_pos (by simp [hblank])]

end LootFilter.Text
