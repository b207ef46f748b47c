import LootFilter.Line.QuoteScan
import LootFilter.Proofs.Condition.Grammar
import LootFilter.Proofs.Text.Pieces

/-!
# The scan for quotes and the pieces of a text

A scan only knows how far it has come. In each round it reads two quotes and cuts out what is
between them, and blank segments make it go on without saying so. Still round number `n` cuts out
the piece with the number `2 * n + 1`. The scan always stands between two characters, so what it
cuts out exists, and it ends when it has no two quotes left.

So a value is known from the pieces and the words of its text.

## Main definitions

* `QuoteScan.behind` — the scan between what has been read and the rest
* `QuoteScan.Reaches` — the scans that a text leads to, by their number of rounds
* `Text.IsBoundary` — a place between two characters, or at an end of the text

## Main results

* `QuoteScan.exists_of_round?_behind` — what a round does
* `QuoteScan.Reaches.exists_behind` — what all rounds keep
* `QuoteScan.segments?_behind` — the scan finds the segments
* `QuoteScan.segments?_and_ofText?` — the scan and the values, from the pieces of the text
-/

namespace LootFilter

/-- A place in a text, in bytes, where no character is cut in two. -/
def Text.IsBoundary (t : Text) (place : Nat) : Prop :=
  ∃ front behind, t = front ++ behind ∧ Text.byteCount front = place

/-- A slice is cut out between two places in order where no character is cut in two. -/
theorem Text.isBoundary_of_slice? {t slice : Text} {start stop : Nat}
    (h : slice? t start stop = some slice) :
    start ≤ stop ∧ t.IsBoundary start ∧ t.IsBoundary stop := by
  obtain ⟨front, behind, rfl, rfl, rfl⟩ := slice?_eq_some_iff.1 h
  refine ⟨Nat.le_add_right _ _, ⟨front, slice ++ behind, rfl, rfl⟩,
    ⟨front ++ slice, behind, ?_, ?_⟩⟩
  · rw [List.append_assoc]
  · rw [byteCount_append]

namespace QuoteScan

variable {before segment t read : Text} {s later : QuoteScan} {n start stop : Nat}

/-- The scan of a text that has read the first part and not the second one. -/
def behind (read rest : Text) : QuoteScan := ⟨read ++ rest, Text.byteCount read, rest⟩

/-! ### One round -/

theorem pastQuoteFrom?_of_not_mem (h : '"' ∉ t) (text : Text) (offset : Nat) :
    pastQuoteFrom? text offset t = none := by
  induction t generalizing offset with
  | nil => rfl
  | cons c t ih =>
    obtain ⟨hc, ht⟩ := not_or.1 (mt List.mem_cons.2 h)
    rw [pastQuoteFrom?, if_neg (Ne.symm hc), ih ht]

theorem pastQuoteFrom?_append (h : '"' ∉ before) (text : Text) (offset : Nat) (rest : Text) :
    pastQuoteFrom? text offset (before ++ '"' :: rest) =
      some ⟨text, offset + Text.byteCount (before ++ ['"']), rest⟩ := by
  induction before generalizing offset with
  | nil => rfl
  | cons c before ih =>
    obtain ⟨hc, hb⟩ := not_or.1 (mt List.mem_cons.2 h)
    rw [List.cons_append, pastQuoteFrom?, if_neg (Ne.symm hc), ih hb, List.cons_append,
      Text.byteCount, Nat.add_assoc]

theorem pastQuote?_behind_of_not_mem (h : '"' ∉ t) (read : Text) :
    (behind read t).pastQuote? = none :=
  pastQuoteFrom?_of_not_mem h _ _

theorem pastQuote?_behind_append (h : '"' ∉ before) (read rest : Text) :
    (behind read (before ++ '"' :: rest)).pastQuote? =
      some (behind (read ++ (before ++ ['"'])) rest) := by
  rw [behind, pastQuote?, pastQuoteFrom?_append h, behind]
  simp

theorem round?_behind_of_not_mem (h : '"' ∉ t) (read : Text) : (behind read t).round? = none := by
  rw [round?, pastQuote?_behind_of_not_mem h]
  rfl

theorem round?_behind_append (h : '"' ∉ before) (read rest : Text) :
    (behind read (before ++ '"' :: rest)).round? =
      (behind (read ++ (before ++ ['"'])) rest).pastQuote?.map fun closed =>
        ((Text.byteCount (read ++ (before ++ ['"'])), closed.offset - Char.utf8Size '"'),
          closed) := by
  rw [round?, pastQuote?_behind_append h]
  rw [Option.map_eq_bind]
  rfl

theorem round?_behind_unclosed (hb : '"' ∉ before) (hs : '"' ∉ segment) (read : Text) :
    (behind read (before ++ '"' :: segment)).round? = none := by
  rw [round?_behind_append hb, pastQuote?_behind_of_not_mem hs, Option.map_none]

/-- A round reads a closed pair of quotes, and what it finds is between them. -/
theorem round?_behind_append_quoted (hb : '"' ∉ before) (hs : '"' ∉ segment) (read rest : Text) :
    (behind read (before ++ '"' :: (segment ++ '"' :: rest))).round? =
      some ((Text.byteCount (read ++ (before ++ ['"'])),
          Text.byteCount (read ++ (before ++ ['"'])) + Text.byteCount segment),
        behind (read ++ (before ++ '"' :: (segment ++ ['"']))) rest) := by
  -- the first quote ends one part of what has been read, and the second one ends the other
  have hread : read ++ (before ++ ['"']) ++ (segment ++ ['"']) =
      read ++ (before ++ '"' :: (segment ++ ['"'])) := by simp
  -- the closing quote has been read, but it is no part of the slice
  have hstop : Text.byteCount (read ++ (before ++ '"' :: (segment ++ ['"']))) - Char.utf8Size '"' =
      Text.byteCount (read ++ (before ++ ['"'])) + Text.byteCount segment := by
    rw [← hread, Text.byteCount_append, Text.byteCount_append segment, ← Nat.add_assoc]
    exact Nat.add_sub_cancel _ _
  rw [round?_behind_append hb, pastQuote?_behind_append hs, hread, Option.map_some, ← hstop]
  rfl

/-- What is between the places that a round finds. -/
theorem slice?_append_quoted (read before segment rest : Text) :
    Text.slice? (read ++ (before ++ '"' :: (segment ++ '"' :: rest)))
        (Text.byteCount (read ++ (before ++ ['"'])))
        (Text.byteCount (read ++ (before ++ ['"'])) + Text.byteCount segment) = some segment :=
  Text.slice?_eq_some_iff.2 ⟨read ++ (before ++ ['"']), '"' :: rest, by simp, rfl, rfl⟩

/-- What a round does: there is a closed pair of quotes, the round is behind it, and the places that
it finds are those of the text in between. -/
theorem exists_of_round?_behind (h : (behind read t).round? = some ((start, stop), later)) :
    ∃ before segment rest, '"' ∉ before ∧ '"' ∉ segment ∧
      t = before ++ '"' :: (segment ++ '"' :: rest) ∧
      later = behind (read ++ (before ++ '"' :: (segment ++ ['"']))) rest ∧
      Text.slice? (read ++ t) start stop = some segment := by
  cases t using Text.quoteInduction with
  | outside t ht =>
    rw [round?_behind_of_not_mem ht] at h
    exact absurd h (by simp)
  | unclosed before segment hb hs =>
    rw [round?_behind_unclosed hb hs] at h
    exact absurd h (by simp)
  | closed before segment rest hb hs =>
    rw [round?_behind_append_quoted hb hs] at h
    obtain ⟨hbounds, rfl⟩ := Prod.mk.inj (Option.some.inj h)
    obtain ⟨rfl, rfl⟩ := Prod.mk.inj hbounds
    exact ⟨before, segment, rest, hb, hs, rfl, rfl, slice?_append_quoted read before segment rest⟩

theorem round?_behind_eq_none_iff : (behind read t).round? = none ↔ t.count '"' < 2 := by
  cases t using Text.quoteInduction with
  | outside t ht => simp [round?_behind_of_not_mem ht, List.count_eq_zero.2 ht]
  | unclosed before segment hb hs =>
    simp [round?_behind_unclosed hb hs, Text.count_append_unclosed hb hs]
  | closed before segment rest hb hs =>
    simp only [round?_behind_append_quoted hb hs, Text.count_append_quoted hb hs]
    exact ⟨fun h => absurd h (by simp), fun h => absurd h (by omega)⟩

/-! ### Round after round -/

/-- The scans that a text leads to, and the number of rounds on the way. -/
inductive Reaches (t : Text) : Nat → QuoteScan → Prop
  | start : Reaches t 0 (ofText t)
  | round {n : Nat} {s later : QuoteScan} {bounds : Nat × Nat} (hs : Reaches t n s)
      (h : s.round? = some (bounds, later)) : Reaches t (n + 1) later

/-- The scan never leaves the text and always stands between two characters. Every round leaves two
pieces and two quotes behind. -/
theorem Reaches.exists_behind (h : Reaches t n s) :
    ∃ read rest, s = behind read rest ∧ t = read ++ rest ∧
      rest.splitOn '"' = (t.splitOn '"').drop (2 * n) ∧
      2 * n + rest.count '"' = t.count '"' := by
  induction h with
  | start => exact ⟨[], t, rfl, rfl, rfl, Nat.zero_add _⟩
  | round _ hround ih =>
    -- the text stays, and what has been read now goes on to the closing quote
    obtain ⟨read, rest, rfl, rfl, hpieces, hcount⟩ := ih
    obtain ⟨before, segment, rest, hb, hs, rfl, rfl, -⟩ := exists_of_round?_behind hround
    refine ⟨_, rest, rfl, ?_, ?_, ?_⟩
    · simp
    · -- two pieces more are dropped, the one in front of the quotes and the one between them
      rw [Text.splitOn_append_quoted hb hs] at hpieces
      rw [Nat.mul_add, ← List.drop_drop, ← hpieces]
      rfl
    · rw [Text.count_append_quoted hb hs] at hcount
      omega

/-- A round cuts out the next piece with an odd number. -/
theorem Reaches.exists_piece (hreaches : Reaches t n s)
    (h : s.round? = some ((start, stop), later)) :
    ∃ piece, (t.splitOn '"')[2 * n + 1]? = some piece ∧ Text.slice? t start stop = some piece := by
  obtain ⟨read, rest, rfl, rfl, hpieces, -⟩ := hreaches.exists_behind
  obtain ⟨before, segment, rest, hb, hs, rfl, -, hslice⟩ := exists_of_round?_behind h
  rw [Text.splitOn_append_quoted hb hs] at hpieces
  refine ⟨segment, ?_, hslice⟩
  -- it is the second piece of those that are left
  rw [← List.getElem?_drop, ← hpieces]
  rfl

/-- The scan ends when all closed pairs of quotes have been read. -/
theorem Reaches.round?_eq_none_iff (h : Reaches t n s) :
    s.round? = none ↔ n = t.count '"' / 2 := by
  obtain ⟨read, rest, rfl, rfl, -, hcount⟩ := h.exists_behind
  rw [round?_behind_eq_none_iff]
  -- a quote that is left over makes no round
  omega

/-! ### Segments -/

/-- Without a closed pair of quotes no segment is left. -/
theorem segments?_of_round?_eq_none (h : s.round? = none) : s.segments? = some [] := by
  rw [segments?_eq, next_eq, h]

/-- A round puts what it cuts out in front of the segments that are left, unless it is blank. -/
theorem segments?_of_round? (h : s.round? = some ((start, stop), later))
    (hslice : Text.slice? s.text start stop = some segment) :
    s.segments? = later.segments?.map (Text.keepSegment segment.reverse) := by
  cases htrim : Text.trim segment with
  | nil =>
    -- the next segment is that of the later scan, and so are all behind it
    have hnext : s.next = later.next := by
      rw [next_eq, h]
      simp only [hslice, htrim]
    have hkeep : Text.keepSegment segment.reverse = id :=
      funext fun segments => Text.keepSegment_of_trim_eq_nil htrim segments
    rw [segments?_eq, hnext, ← segments?_eq, hkeep, Option.map_id, id]
  | cons c kept =>
    have hnext : s.next = .segment (c :: kept) later := by
      rw [next_eq, h]
      simp only [hslice, htrim]
    have hne : Text.trim segment ≠ [] := htrim ▸ List.cons_ne_nil c kept
    have hkeep : Text.keepSegment segment.reverse = (Text.trim segment :: ·) :=
      funext fun segments => Text.keepSegment_of_trim_ne_nil hne segments
    rw [segments?_eq, hnext, hkeep, htrim]

/-- What a scan finds are the segments of the text that it has not read. -/
theorem segments?_behind (read rest : Text) :
    (behind read rest).segments? = some (Text.quotedSegments rest) := by
  induction rest using Text.quoteInduction generalizing read with
  | outside t h =>
    rw [segments?_of_round?_eq_none (round?_behind_of_not_mem h read),
      Text.quotedSegments_of_not_mem h]
  | unclosed before segment hb hs =>
    rw [segments?_of_round?_eq_none (round?_behind_unclosed hb hs read),
      Text.quotedSegments_unclosed hb hs]
  | closed before segment rest hb hs ih =>
    -- one round, and the scan behind it has read more
    rw [segments?_of_round? (round?_behind_append_quoted hb hs read rest)
        (slice?_append_quoted read before segment rest),
      ih, Option.map_some, Text.quotedSegments_append_quoted hb hs]

/-- An empty pair of quotes leaves the others where they are, and the last quote closes nothing. -/
example : (ofText "Jewel \"\" \" Cobalt Jewel \" \"Viridian").segments? =
    some (["Cobalt Jewel"] : List Text) :=
  (segments?_behind [] _).trans (by decide)

/-! ### Values -/

/-- **Scanning for quotes.** Let `k` be the number of quotes in a text. The scan finds the pieces
with odd numbers below `k`, trimmed, as far as they are not blank. It ends behind `k / 2` rounds.
Round number `n` cuts out piece number `2 * n + 1`, between two places in order where no character
is cut in two. These segments are the value of the text if there are any. Otherwise its words are,
and only a blank text has no value. -/
theorem segments?_and_ofText? (t : Text) :
    (ofText t).segments? = some (Text.quotedSegments t) ∧
      Text.quotedSegments t = ((Text.enclosedPieces t).map Text.trim).filter (· ≠ []) ∧
      (∀ n s, Reaches t n s →
        (s.round? = none ↔ n = t.count '"' / 2) ∧
          ∀ start stop later, s.round? = some ((start, stop), later) →
            start ≤ stop ∧ t.IsBoundary start ∧ t.IsBoundary stop ∧
              ∃ piece, (t.splitOn '"')[2 * n + 1]? = some piece ∧
                Text.slice? t start stop = some piece) ∧
      (Value.ofText? t = none ↔ t.isBlankText = true) ∧
      (Text.quotedSegments t ≠ [] → Value.ofText? t = some (.list (Text.quotedSegments t))) ∧
      (Text.quotedSegments t = [] →
        (∀ word, Text.words t = [word] → Value.ofText? t = some (.text word)) ∧
          (2 ≤ (Text.words t).length → Value.ofText? t = some (.list (Text.words t)))) := by
  refine ⟨segments?_behind [] t, Text.quotedSegments_eq_enclosedPieces t, fun n s hreaches => ?_,
    Value.ofText?_eq_none_iff.trans Text.words_eq_nil_iff_isBlankText,
    Value.ofText?_of_quotedSegments_ne_nil, fun hnone => ⟨fun word hword => ?_, fun hlength => ?_⟩⟩
  · -- a round finds a piece, and the places around a piece are in order
    refine ⟨hreaches.round?_eq_none_iff, fun start stop later hround => ?_⟩
    obtain ⟨piece, hpiece, hslice⟩ := hreaches.exists_piece hround
    obtain ⟨hle, hstart, hstop⟩ := Text.isBoundary_of_slice? hslice
    exact ⟨hle, hstart, hstop, piece, hpiece, hslice⟩
  · have hne : Text.words t ≠ [] := hword ▸ List.cons_ne_nil word []
    rw [Value.ofText?_of_quotedSegments_eq_nil hnone hne, hword]
    rfl
  · have hne : Text.words t ≠ [] := by
      apply List.ne_nil_of_length_pos
      omega
    rw [Value.ofText?_of_quotedSegments_eq_nil hnone hne, Value.ofWords_of_two_le hlength]

end QuoteScan

end LootFilter
