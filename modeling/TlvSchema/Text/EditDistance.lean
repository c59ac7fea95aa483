/-!
# Edit distance

How many insertions, deletions and substitutions of single characters turn one text into another,
and the choice of the nearest of several texts.

* `editDistance` — the distance, computed row by row
* `nearest?` — the nearest of several texts within a limit
-/

namespace TlvSchema.Text

/-! ### The distance -/

/-- The distances from the empty text to every suffix of a text, the longest first. -/
def suffixLengths : List Char → List Nat
  | [] => [0]
  | _ :: ys => (ys.length + 1) :: suffixLengths ys

/-- Given the distances from `xs` to every suffix of `ys`, the distances from `x :: xs` to them. -/
def extendRow (x : Char) : List Char → List Nat → List Nat
  | [], row => [row.headD 0 + 1]
  | y :: ys, row =>
    let after := extendRow x ys row.tail
    let substituted := row.tail.headD 0 + if x = y then 0 else 1
    min substituted (min (row.headD 0 + 1) (after.headD 0 + 1)) :: after

/-- The distances from `xs` to every suffix of `ys`, the longest suffix first. -/
def distanceRow (xs ys : List Char) : List Nat :=
  xs.foldr (fun x row => extendRow x ys row) (suffixLengths ys)

/-- The least number of single-character edits that turn one text into the other. -/
def editDistance (s t : String) : Nat :=
  (distanceRow s.toList t.toList).headD 0

/-! ### The nearest text -/

/-- The better of two texts with their distances: the nearer one, and of two equally near ones the
one that comes first in the order of texts. -/
def better (a b : Nat × String) : Nat × String :=
  if b.1 < a.1 ∨ (b.1 = a.1 ∧ b.2 < a.2) then b else a

/-- The best of several texts with their distances. -/
def best? : List (Nat × String) → Option (Nat × String)
  | [] => none
  | c :: cs => some (cs.foldl better c)

/-- The candidate nearest to `name`, if one is within `limit` edits. -/
def nearest? (limit : Nat) (name : String) (candidates : List String) : Option String :=
  let measured := candidates.map fun candidate => (editDistance name candidate, candidate)
  (best? (measured.filter fun c => c.1 ≤ limit)).map Prod.snd

/-- The candidate that `name` is likely to misspell: the nearest one within a third of the name's
length in bytes, and at least within one edit. -/
def suggestion? (name : String) (candidates : List String) : Option String :=
  nearest? (max (name.utf8ByteSize / 3) 1) name candidates

end TlvSchema.Text
