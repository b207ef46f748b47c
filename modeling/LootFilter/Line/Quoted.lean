import LootFilter.Text.Words

/-!
# Quoted segments

A value of several words is written between double quotes. The text between an opening and the next
closing quote is a segment; surrounding blanks do not belong to it, and a blank segment does not
count. What stands outside quotes, or behind a quote that is never closed, is passed over.

## Main definitions

* `Text.quotedSegments` — the segments of a text, in order

## Main results

* `Text.quotedSegments_append_quoted` — how a segment arises
* `Text.quotedSegments_of_not_mem` — without quotes there is no segment
-/

namespace LootFilter.Text

/-- A segment in a list, unless it is blank; the segment is given with its last character first. -/
def keepSegment (segment : Text) (later : List Text) : List Text :=
  match trim segment.reverse with
  | [] => later
  | kept => kept :: later

/-- The pass over a text. The state is what has been read of the open segment, its last character
first, or nothing outside quotes. -/
def segmentsFrom : Option Text → Text → List Text
  | _, [] => []
  | none, c :: rest => segmentsFrom (if c = '"' then some [] else none) rest
  | some segment, c :: rest =>
    if c = '"' then keepSegment segment (segmentsFrom none rest)
    else segmentsFrom (some (c :: segment)) rest

/-- The quoted segments of a text. -/
def quotedSegments (t : Text) : List Text := segmentsFrom none t

theorem segmentsFrom_none_append {s : Text} (h : '"' ∉ s) (t : Text) :
    segmentsFrom none (s ++ t) = segmentsFrom none t := by
  induction s with
  | nil => rfl
  | cons c s ih =>
    simp only [List.mem_cons, not_or] at h
    simp [segmentsFrom, Ne.symm h.1, ih h.2]

theorem segmentsFrom_some_append {s : Text} (h : '"' ∉ s) (segment t : Text) :
    segmentsFrom (some segment) (s ++ t) = segmentsFrom (some (s.reverse ++ segment)) t := by
  induction s generalizing segment with
  | nil => rfl
  | cons c s ih =>
    simp only [List.mem_cons, not_or] at h
    simp [segmentsFrom, Ne.symm h.1, ih h.2]

/-- Text outside quotes, a segment between quotes, and the rest. -/
theorem quotedSegments_append_quoted {before segment : Text} (hb : '"' ∉ before)
    (hs : '"' ∉ segment) (rest : Text) :
    quotedSegments (before ++ '"' :: (segment ++ '"' :: rest)) =
      keepSegment segment.reverse (quotedSegments rest) := by
  rw [quotedSegments, segmentsFrom_none_append hb]
  simp only [segmentsFrom, if_true]
  rw [segmentsFrom_some_append hs]
  simp [segmentsFrom, quotedSegments]

/-- Without quotes there is no segment. -/
theorem quotedSegments_of_not_mem {t : Text} (h : '"' ∉ t) : quotedSegments t = [] := by
  have := segmentsFrom_none_append h []
  simpa [quotedSegments, segmentsFrom] using this

/-- Behind a quote that is never closed there is no segment. -/
theorem quotedSegments_unclosed {before segment : Text} (hb : '"' ∉ before) (hs : '"' ∉ segment) :
    quotedSegments (before ++ '"' :: segment) = [] := by
  rw [quotedSegments, segmentsFrom_none_append hb]
  simp only [segmentsFrom, if_true]
  have := segmentsFrom_some_append hs [] []
  simpa [segmentsFrom] using this

end LootFilter.Text
