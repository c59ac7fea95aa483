import Mathlib
import TlvSchema.Text.EditDistance

/-!
# The edit distance is least

One edit inserts a character anywhere, deletes one, or puts another one in its place.  The rows that are
computed hold the distances by the first characters of both texts, `distance`.  Along one edit this
distance changes by no more than one, whatever the other text is, so no row of edits is shorter than it;
and one of its length can be read off its recursion.

* `Edit`, `Edits` — one edit, and several in a row
* `distance`, `distanceRow_eq` — the distance by recursion, and by rows
* `isLeast_editDistance` — the distance is the least number of edits
-/

namespace TlvSchema.Text

/-! ### Edits -/

/-- One text comes from the other by one edit. -/
inductive Edit : List Char → List Char → Prop where
  /-- A character is inserted. -/
  | insert (before : List Char) (c : Char) (after : List Char) :
    Edit (before ++ after) (before ++ c :: after)
  /-- A character is deleted. -/
  | delete (before : List Char) (c : Char) (after : List Char) :
    Edit (before ++ c :: after) (before ++ after)
  /-- A character is put in the place of another one. -/
  | substitute (before : List Char) (c d : Char) (after : List Char) :
    Edit (before ++ c :: after) (before ++ d :: after)

/-- One text comes from the other by a number of edits. -/
inductive Edits : List Char → List Char → ℕ → Prop where
  /-- Nothing is edited. -/
  | none (xs : List Char) : Edits xs xs 0
  /-- One edit is followed by others. -/
  | step {xs ys zs : List Char} {n : ℕ} (first : Edit xs ys) (others : Edits ys zs n) :
    Edits xs zs (n + 1)

variable {xs ys zs : List Char} {n : ℕ}

theorem Edit.cons (c : Char) (h : Edit xs ys) : Edit (c :: xs) (c :: ys) := by
  cases h with
  | insert before d after => exact .insert (c :: before) d after
  | delete before d after => exact .delete (c :: before) d after
  | substitute before d e after => exact .substitute (c :: before) d e after

theorem Edits.cons (c : Char) (h : Edits xs ys n) : Edits (c :: xs) (c :: ys) n := by
  induction h with
  | none xs => exact .none (c :: xs)
  | step first _ ih => exact .step (first.cons c) ih

theorem edits_nil_left (ys : List Char) : Edits [] ys ys.length := by
  induction ys with
  | nil => exact .none []
  | cons y ys ih => exact .step (.insert [] y []) (ih.cons y)

theorem edits_nil_right (xs : List Char) : Edits xs [] xs.length := by
  induction xs with
  | nil => exact .none []
  | cons x xs ih => exact .step (.delete [] x xs) ih

/-! ### The distance by recursion -/

/-- The distance of two texts.  If both have a first character, these correspond, or the first one is
deleted, or the second one is inserted. -/
def distance : List Char → List Char → ℕ
  | [], ys => ys.length
  | x :: xs, [] => (x :: xs).length
  | x :: xs, y :: ys =>
    min (distance xs ys + if x = y then 0 else 1)
      (min (distance xs (y :: ys) + 1) (distance (x :: xs) ys + 1))
termination_by xs ys => xs.length + ys.length

theorem distance_nil_left (ys : List Char) : distance [] ys = ys.length := by
  rw [distance]

theorem distance_nil_right (xs : List Char) : distance xs [] = xs.length := by
  cases xs with
  | nil => rw [distance]
  | cons x xs => rw [distance]

theorem distance_cons_cons (x y : Char) (xs ys : List Char) :
    distance (x :: xs) (y :: ys) = min (distance xs ys + if x = y then 0 else 1)
      (min (distance xs (y :: ys) + 1) (distance (x :: xs) ys + 1)) := by
  rw [distance]

/-! ### The distance by rows -/

theorem suffixLengths_eq (ys : List Char) : suffixLengths ys = ys.tails.map (distance []) := by
  induction ys with
  | nil => simp [suffixLengths, distance_nil_left]
  | cons y ys ih => simp [suffixLengths, ih, distance_nil_left]

theorem headD_map_tails (ys : List Char) :
    (ys.tails.map (distance xs)).headD 0 = distance xs ys := by
  cases ys with
  | nil => rfl
  | cons y ys => rfl

theorem extendRow_eq (x : Char) (xs ys : List Char) :
    extendRow x ys (ys.tails.map (distance xs)) = ys.tails.map (distance (x :: xs)) := by
  induction ys with
  | nil => simp [extendRow, distance_nil_right]
  | cons y ys ih =>
    rw [List.tails_cons, List.map_cons, List.map_cons, extendRow, List.tail_cons, ih,
      headD_map_tails, headD_map_tails, List.headD_cons, distance_cons_cons]

/-- **A row holds the distances to all suffixes.** -/
theorem distanceRow_eq (xs ys : List Char) : distanceRow xs ys = ys.tails.map (distance xs) := by
  rw [distanceRow]
  induction xs with
  | nil => exact suffixLengths_eq ys
  | cons x xs ih => rw [List.foldr_cons, ih, extendRow_eq]

theorem editDistance_eq (s t : String) : editDistance s t = distance s.toList t.toList := by
  rw [editDistance, distanceRow_eq, headD_map_tails]

/-! ### The distance along an edit -/

theorem distance_self (xs : List Char) : distance xs xs = 0 := by
  induction xs with
  | nil => exact distance_nil_left []
  | cons x xs ih => rw [distance_cons_cons, ih, if_pos rfl, Nat.zero_min]

/-- A deletion at the front. -/
theorem distance_cons_le (x : Char) (xs zs : List Char) :
    distance (x :: xs) zs ≤ distance xs zs + 1 := by
  cases zs with
  | nil => rw [distance_nil_right, distance_nil_right, List.length_cons]
  | cons z zs =>
    rw [distance_cons_cons]
    omega

/-- An insertion at the front. -/
theorem distance_le_cons (x : Char) (xs zs : List Char) :
    distance xs zs ≤ distance (x :: xs) zs + 1 := by
  induction zs with
  | nil =>
    rw [distance_nil_right, distance_nil_right, List.length_cons]
    omega
  | cons z zs ih =>
    have hinsert : distance xs (z :: zs) ≤ distance xs zs + 1 := by
      cases xs with
      | nil => rw [distance_nil_left, distance_nil_left, List.length_cons]
      | cons w ws =>
        rw [distance_cons_cons w z]
        omega
    rw [distance_cons_cons x z]
    omega

/-- A substitution at the front. -/
theorem distance_cons_le_cons (x y : Char) (xs zs : List Char) :
    distance (x :: xs) zs ≤ distance (y :: xs) zs + 1 := by
  induction zs with
  | nil =>
    rw [distance_nil_right, distance_nil_right, List.length_cons, List.length_cons]
    omega
  | cons z zs ih =>
    rw [distance_cons_cons, distance_cons_cons]
    split_ifs <;> omega

/-- A change that lies further on. -/
theorem distance_cons_congr (c : Char) (h : ∀ zs, distance xs zs ≤ distance ys zs + 1)
    (zs : List Char) : distance (c :: xs) zs ≤ distance (c :: ys) zs + 1 := by
  induction zs with
  | nil =>
    have hnil := h []
    rw [distance_nil_right, distance_nil_right] at hnil ⊢
    rw [List.length_cons, List.length_cons]
    omega
  | cons z zs ih =>
    have hboth := h zs
    have hleft := h (z :: zs)
    rw [distance_cons_cons, distance_cons_cons]
    omega

theorem distance_append_congr (before : List Char)
    (h : ∀ zs, distance xs zs ≤ distance ys zs + 1) (zs : List Char) :
    distance (before ++ xs) zs ≤ distance (before ++ ys) zs + 1 := by
  induction before generalizing zs with
  | nil => exact h zs
  | cons c before ih => exact distance_cons_congr c ih zs

/-- **One edit changes the distance to any text by one at most.** -/
theorem Edit.distance_le (h : Edit xs ys) (zs : List Char) :
    distance xs zs ≤ distance ys zs + 1 := by
  cases h with
  | insert before c after => exact distance_append_congr before (distance_le_cons c after) zs
  | delete before c after => exact distance_append_congr before (distance_cons_le c after) zs
  | substitute before c d after =>
    exact distance_append_congr before (distance_cons_le_cons c d after) zs

/-! ### Rows of edits -/

/-- No row of edits is shorter than the distance. -/
theorem Edits.distance_le (h : Edits xs ys n) : distance xs ys ≤ n := by
  induction h with
  | none xs => rw [distance_self]
  | @step xs ys zs n first _ ih =>
    calc distance xs zs ≤ distance ys zs + 1 := first.distance_le zs
      _ ≤ n + 1 := Nat.add_le_add_right ih 1

/-- A row of edits is as long as the distance. -/
theorem edits_distance (xs ys : List Char) : Edits xs ys (distance xs ys) := by
  induction xs, ys using distance.induct with
  | case1 ys =>
    rw [distance_nil_left]
    exact edits_nil_left ys
  | case2 x xs =>
    rw [distance_nil_right]
    exact edits_nil_right (x :: xs)
  | case3 x xs y ys hboth hdelete hinsert =>
    have hfirst : Edits (x :: xs) (y :: ys) (distance xs ys + if x = y then 0 else 1) := by
      split_ifs with hxy
      · exact hxy ▸ hboth.cons x
      · exact .step (.substitute [] x y xs) (hboth.cons y)
    rw [distance_cons_cons]
    -- one of the three ways is the shortest
    rcases min_choice (distance xs ys + if x = y then 0 else 1)
      (min (distance xs (y :: ys) + 1) (distance (x :: xs) ys + 1)) with h | h <;> rw [h]
    · exact hfirst
    · rcases min_choice (distance xs (y :: ys) + 1) (distance (x :: xs) ys + 1) with h | h <;> rw [h]
      · exact .step (.delete [] x xs) hdelete
      · exact .step (.insert [] y (x :: xs)) (hinsert.cons y)

/-- **The distance is the least number of edits that turn one text into the other.** -/
theorem isLeast_editDistance (s t : String) :
    IsLeast {n | Edits s.toList t.toList n} (editDistance s t) := by
  rw [editDistance_eq]
  exact ⟨edits_distance s.toList t.toList, fun _ h => h.distance_le⟩

end TlvSchema.Text
