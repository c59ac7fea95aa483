/-!
# Similarity of words

How much two words look alike, from zero to one: the share of letters that both have at nearly the same
places, less the share of those that are out of order.

* `similarity` — the measure of Jaro
* `similarWords` — the words that look alike, the best one last
-/

namespace TlvSchema.Text

/-- The letter is at one of the places from `first` on below `last`, and not taken; the place is
taken then. -/
def takeMatch (c : Char) (first last : Nat) :
    (place : Nat) → List (Char × Bool) → Option (List (Char × Bool))
  | _, [] => none
  | place, (d, taken) :: ds =>
    if first ≤ place && place < last && c == d && !taken then some ((d, true) :: ds)
    else (takeMatch c first last (place + 1) ds).map ((d, taken) :: ·)

/-- The letters of one word that the other has within `range` places, and the other word with the
places that have been taken. -/
def matchLetters (range : Nat) :
    (place : Nat) → List Char → List (Char × Bool) → List Char × List (Char × Bool)
  | _, [], word => ([], word)
  | place, c :: cs, word =>
    match takeMatch c (place - range) (place + range + 1) 0 word with
    | some word' =>
      let found := matchLetters range (place + 1) cs word'
      (c :: found.1, found.2)
    | none => matchLetters range (place + 1) cs word

/-- How much two words look alike. -/
def similarity (a b : String) : Float :=
  let sizeA := a.length
  let sizeB := b.length
  if sizeA = 0 ∧ sizeB = 0 then 1.0
  else
    let range := max sizeA sizeB / 2 - 1
    let found := matchLetters range 0 a.toList (b.toList.map fun c => (c, false))
    let common := found.1.length
    let other := (found.2.filter Prod.snd).map Prod.fst
    let moved := ((found.1.zip other).countP fun p => p.1 != p.2) / 2
    if common = 0 then 0.0
    else
      (common.toFloat / sizeA.toFloat + common.toFloat / sizeB.toFloat +
        (common - moved).toFloat / common.toFloat) / 3.0

/-- The words that look much like a word, the best one last. -/
def similarWords (word : String) (words : List String) : List String :=
  let measured := words.map fun other => (similarity word other, other)
  ((measured.filter fun m => m.1 > 0.7).mergeSort fun m n => m.1 ≤ n.1).map Prod.snd

end TlvSchema.Text
