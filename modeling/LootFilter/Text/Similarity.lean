import LootFilter.Text.Basic

/-!
# Similarity of words

The Jaro–Winkler similarity of two words, a number from 0 to 1 in double precision. Two equal
characters match if they are not too far apart; the similarity counts matches and transpositions,
and similar words gain for a common beginning of up to four characters.

## Main definitions

* `Similarity.matched` — the characters of two words that match
* `Similarity.jaro`, `Similarity.jaroWinkler` — the similarity without and with the gain
-/

namespace LootFilter.Similarity

/-- How far apart two equal characters may stand and still match. -/
def range (a b : Text) : Nat := max a.length b.length / 2 - 1

/-- The places of a word, each with its character and whether it has been matched. -/
abbrev Places := List (Char × Bool)

/-- Matches a character with the first free place that holds it, from place `low` to place `high`;
nothing if there is none. -/
def claim? (c : Char) (low high : Nat) : Nat → Places → Option Places
  | _, [] => none
  | j, (d, used) :: rest =>
    if low ≤ j && j ≤ high && d == c && !used then some ((d, true) :: rest)
    else (claim? c low high (j + 1) rest).map ((d, used) :: ·)

/-- Matches the characters of a word from place `i` on; the result is the characters that found a
partner, and the places of the other word. -/
def claimAll (range : Nat) : Nat → Text → Places → Text × Places
  | _, [], places => ([], places)
  | i, c :: rest, places =>
    match claim? c (i - range) (i + range) 0 places with
    | some claimed =>
      let (found, final) := claimAll range (i + 1) rest claimed
      (c :: found, final)
    | none => claimAll range (i + 1) rest places

/-- The characters of two words that match, each in the order of its word. -/
def matched (a b : Text) : Text × Text :=
  let (found, places) := claimAll (range a b) 0 a (b.map (·, false))
  (found, (places.filter (·.2)).map (·.1))

/-- The Jaro similarity of two words that are not empty. -/
def jaro (a b : Text) : Float :=
  let (found, partners) := matched a b
  let count := found.length
  if count = 0 then 0
  else
    let transpositions := ((found.zip partners).filter fun (c, d) => c != d).length / 2
    let m := count.toFloat
    (m / a.length.toFloat + m / b.length.toFloat + (count - transpositions).toFloat / m) / 3

/-- The length of the common beginning of two words, up to four characters. -/
def commonStart (a b : Text) : Nat :=
  (((a.take 4).zip b).takeWhile fun (c, d) => c == d).length

/-- The Jaro–Winkler similarity of two words that are not empty. -/
def jaroWinkler (a b : Text) : Float :=
  let similarity := jaro a b
  if 0.7 < similarity then
    similarity + 0.1 * (commonStart a b).toFloat * (1 - similarity)
  else similarity

end LootFilter.Similarity
