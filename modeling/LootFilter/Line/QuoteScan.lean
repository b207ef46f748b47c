import LootFilter.Line.Quoted

/-!
# Scanning for quotes

Quoted segments are slices of the text. A scan reads on from quote to quote and counts the bytes
that it has read, so it knows where a slice starts and where it stops. A slice exists only between
places in order, and only if neither of them lies within a character or behind the end of the text.

## Main definitions

* `Text.splitAtByte?`, `Text.slice?` — a text cut in two, and cut out between two places
* `QuoteScan` — a text, and how far it has been read
* `QuoteScan.round?` — where the text between the next two quotes starts and stops
* `QuoteScan.next` — the next segment that is not blank
* `QuoteScan.segments?` — all segments, unless a slice does not exist

## Main results

* `Text.splitAtByte?_eq_some_iff`, `Text.slice?_eq_some_iff` — where a text can be cut
-/

namespace LootFilter

namespace Text

/-- A text cut in two behind some of its bytes, if a character ends there. -/
def splitAtByte? : Nat → Text → Option (Text × Text)
  | 0, t => some ([], t)
  | _ + 1, [] => none
  | n + 1, c :: rest =>
    if c.utf8Size ≤ n + 1 then
      (splitAtByte? (n + 1 - c.utf8Size) rest).map fun (front, behind) => (c :: front, behind)
    else none

/-- The part of a text between two places, which are given in bytes. -/
def slice? (t : Text) (start stop : Nat) : Option Text :=
  if start ≤ stop then do
    let (_, behind) ← splitAtByte? start t
    -- the second place is counted from the beginning of the text
    let (slice, _) ← splitAtByte? (stop - start) behind
    some slice
  else none

variable {t front behind slice : Text} {n start stop : Nat}

@[simp] theorem byteCount_nil : byteCount [] = 0 := rfl

@[simp] theorem byteCount_append (s t : Text) :
    byteCount (s ++ t) = byteCount s + byteCount t := by
  induction s with
  | nil => simp
  | cons c s ih => simp [byteCount, ih, Nat.add_assoc]

theorem splitAtByte?_append (front behind : Text) :
    splitAtByte? (byteCount front) (front ++ behind) = some (front, behind) := by
  induction front with
  | nil => rw [byteCount_nil, splitAtByte?, List.nil_append]
  | cons c front ih =>
    -- a character has a byte, so the cut is not in front of it
    obtain ⟨n, hn⟩ : ∃ n, byteCount (c :: front) = n + 1 :=
      ⟨byteCount (c :: front) - 1, by have := c.utf8Size_pos; simp only [byteCount]; omega⟩
    have hle : c.utf8Size ≤ n + 1 := by
      rw [← hn, byteCount]
      omega
    have hrest : n + 1 - c.utf8Size = byteCount front := by
      rw [← hn, byteCount]
      omega
    rw [hn, List.cons_append, splitAtByte?, if_pos hle, hrest, ih]
    rfl

/-- A text can be cut behind the bytes of its first characters, and nowhere else. -/
theorem splitAtByte?_eq_some_iff :
    splitAtByte? n t = some (front, behind) ↔ t = front ++ behind ∧ byteCount front = n := by
  constructor
  · intro h
    induction t generalizing n front with
    | nil =>
      cases n with
      | zero =>
        obtain ⟨rfl, rfl⟩ := Prod.mk.inj (Option.some.inj h)
        exact ⟨rfl, rfl⟩
      | succ n => exact absurd h (by simp [splitAtByte?])
    | cons c t ih =>
      cases n with
      | zero =>
        obtain ⟨rfl, rfl⟩ := Prod.mk.inj (Option.some.inj h)
        exact ⟨rfl, rfl⟩
      | succ n =>
        rw [splitAtByte?] at h
        split at h
        next hle =>
          obtain ⟨⟨front', behind'⟩, hcut, hpair⟩ := Option.map_eq_some_iff.1 h
          obtain ⟨rfl, rfl⟩ := Prod.mk.inj hpair
          obtain ⟨rfl, hcount⟩ := ih hcut
          refine ⟨rfl, ?_⟩
          rw [byteCount]
          omega
        next => exact absurd h (by simp)
  · rintro ⟨rfl, rfl⟩
    exact splitAtByte?_append front behind

/-- A slice exists between the bytes of some first characters and those of more of them. -/
theorem slice?_eq_some_iff :
    slice? t start stop = some slice ↔
      ∃ front behind, t = front ++ (slice ++ behind) ∧ byteCount front = start ∧
        byteCount front + byteCount slice = stop := by
  unfold slice?
  constructor
  · intro h
    split at h
    next hle =>
      obtain ⟨⟨front, rest⟩, hfront, h⟩ := Option.bind_eq_some_iff.1 h
      obtain ⟨⟨slice', behind⟩, hslice, h⟩ := Option.bind_eq_some_iff.1 h
      obtain rfl : slice' = slice := Option.some.inj h
      obtain ⟨rfl, rfl⟩ := splitAtByte?_eq_some_iff.1 hfront
      obtain ⟨rfl, hcount⟩ := splitAtByte?_eq_some_iff.1 hslice
      exact ⟨front, behind, rfl, rfl, by omega⟩
    next => exact absurd h (by simp)
  · rintro ⟨front, behind, rfl, rfl, rfl⟩
    have hlength : byteCount front + byteCount slice - byteCount front = byteCount slice := by
      omega
    rw [if_pos (Nat.le_add_right _ _), splitAtByte?_append, hlength]
    simp [splitAtByte?_append]

end Text

/-- A scan for quotes in a text. -/
structure QuoteScan where
  /-- The whole text. -/
  text : Text
  /-- How many bytes have been read. -/
  offset : Nat
  /-- What has not been read. -/
  rest : Text
  deriving Repr, DecidableEq

namespace QuoteScan

variable {s later : QuoteScan} {bounds : Nat × Nat} {segment : Text}

/-- The scan that has read nothing yet. -/
def ofText (t : Text) : QuoteScan := ⟨t, 0, t⟩

/-- The scan behind the first quote in `rest`, if `offset` bytes of the text stand in front of
`rest`. -/
def pastQuoteFrom? (text : Text) : Nat → Text → Option QuoteScan
  | _, [] => none
  | offset, c :: rest =>
    if c = '"' then some ⟨text, offset + c.utf8Size, rest⟩
    else pastQuoteFrom? text (offset + c.utf8Size) rest

/-- The scan behind the next quote. -/
def pastQuote? (s : QuoteScan) : Option QuoteScan := pastQuoteFrom? s.text s.offset s.rest

/-- The places behind the next quote and in front of the one after it, and the scan behind both. -/
def round? (s : QuoteScan) : Option ((Nat × Nat) × QuoteScan) := do
  let opened ← s.pastQuote?
  let closed ← opened.pastQuote?
  some ((opened.offset, closed.offset - Char.utf8Size '"'), closed)

/-- What a scan comes to when it is asked for a segment. -/
inductive Outcome
  /-- A segment, and the scan that goes on behind it. -/
  | segment (t : Text) (later : QuoteScan)
  /-- No segment is left. -/
  | finished
  /-- There is nothing to cut out between two places. -/
  | badSlice (start stop : Nat)
  deriving Repr, DecidableEq

/-! ### Every round reads something -/

theorem length_rest_lt_of_pastQuoteFrom? {text t : Text} {offset : Nat}
    (h : pastQuoteFrom? text offset t = some later) : later.rest.length < t.length := by
  induction t generalizing offset with
  | nil => exact absurd h (by simp [pastQuoteFrom?])
  | cons c t ih =>
    rw [pastQuoteFrom?] at h
    split at h
    · obtain rfl := Option.some.inj h
      exact Nat.lt_succ_self _
    · exact Nat.lt_succ_of_lt (ih h)

theorem length_rest_lt_of_round? (h : s.round? = some (bounds, later)) :
    later.rest.length < s.rest.length := by
  obtain ⟨opened, hopened, h⟩ := Option.bind_eq_some_iff.1 h
  obtain ⟨closed, hclosed, h⟩ := Option.bind_eq_some_iff.1 h
  obtain rfl : closed = later := congrArg Prod.snd (Option.some.inj h)
  exact Nat.lt_trans (length_rest_lt_of_pastQuoteFrom? hclosed)
    (length_rest_lt_of_pastQuoteFrom? hopened)

/-- The next segment that is not blank. Blank ones are passed over. -/
def next (s : QuoteScan) : Outcome :=
  match _h : s.round? with
  | none => .finished
  | some ((start, stop), later) =>
    match Text.slice? s.text start stop with
    | none => .badSlice start stop
    | some slice =>
      match Text.trim slice with
      -- the loop goes on behind a blank segment, and less is left to read
      | [] => later.next
      | segment => .segment segment later
termination_by s.rest.length
decreasing_by exact length_rest_lt_of_round? _h

theorem length_rest_lt_of_next (h : s.next = .segment segment later) :
    later.rest.length < s.rest.length := by
  fun_induction next s with
  | case1 => exact absurd h (by simp)
  | case2 => exact absurd h (by simp)
  | case3 s start stop scan hround slice hslice hblank ih =>
    exact Nat.lt_trans (ih h) (length_rest_lt_of_round? hround)
  | case4 s start stop scan hround slice hslice hne =>
    obtain ⟨-, rfl⟩ := Outcome.segment.inj h
    exact length_rest_lt_of_round? hround

/-- The segments that are left, unless there is nothing to cut out for one of them. -/
def segments? (s : QuoteScan) : Option (List Text) :=
  match _h : s.next with
  | .segment segment later => later.segments?.map (segment :: ·)
  | .finished => some []
  | .badSlice _ _ => none
termination_by s.rest.length
decreasing_by exact length_rest_lt_of_next _h

/-! ### What a scan comes to, from its next round -/

theorem next_eq (s : QuoteScan) :
    s.next =
      match s.round? with
      | none => .finished
      | some ((start, stop), later) =>
        match Text.slice? s.text start stop with
        | none => .badSlice start stop
        | some slice =>
          match Text.trim slice with
          | [] => later.next
          | segment => .segment segment later := by
  rw [next]
  -- the round is looked at together with a proof that it has been found, which is not needed here
  split
  next hround => rw [hround]
  next hround => rw [hround]

theorem segments?_eq (s : QuoteScan) :
    s.segments? =
      match s.next with
      | .segment segment later => later.segments?.map (segment :: ·)
      | .finished => some []
      | .badSlice _ _ => none := by
  rw [segments?]
  split
  next hnext => rw [hnext]
  next hnext => rw [hnext]
  next hnext => rw [hnext]

end QuoteScan

end LootFilter
