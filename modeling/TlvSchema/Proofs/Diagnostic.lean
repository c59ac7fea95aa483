import Mathlib
import TlvSchema.Diagnostic.Render

/-!
# What a diagnostic says

The text of a diagnostic begins with its severity and its message.  The place of its label follows, then its
notes, each on rows of its own, and an empty line (`render_eq`).  A diagnostic without a label says nothing
else (`render_of_no_label`).
-/

namespace TlvSchema.Diagnostic

/-! ### Notes -/

/-- The margin of a line without a number. -/
def marginText (digits : ℕ) : String := String.ofList (List.replicate (digits + 1) ' ')

/-- A note on rows of its own, of which the first one is marked. -/
def noteText (digits : ℕ) (note : String) : String :=
  match Text.rows note.toList with
  | [] => ""
  | row :: rows =>
    marginText digits ++ "= " ++ String.ofList row ++ "\n" ++
      String.join (rows.map fun row => marginText digits ++ "  " ++ String.ofList row ++ "\n")

theorem join_flatMap {α : Type} (f : α → List String) (l : List α) :
    String.join (l.flatMap f) = String.join (l.map fun a => String.join (f a)) := by
  induction l with
  | nil => rfl
  | cons a l ih => rw [List.flatMap_cons, String.join_append, ih, List.map_cons, String.join_cons]

theorem join_spaces (count : ℕ) :
    String.join (spaces count) = String.ofList (List.replicate count ' ') := by
  induction count with
  | zero => rfl
  | succ count ih =>
    rw [spaces, List.replicate_succ, String.join_cons, ← spaces, ih, List.replicate_succ,
      ← String.toList_inj]
    simp

theorem join_margin (digits : ℕ) : String.join (margin digits) = marginText digits := by
  rw [margin, String.join_append, join_spaces, marginText, List.replicate_succ', ← String.toList_inj]
  simp

theorem join_row (digits : ℕ) (mark row : String) :
    String.join (margin digits ++ [mark, " ", row, "\n"]) =
      marginText digits ++ (mark ++ " ") ++ row ++ "\n" := by
  rw [String.join_append, join_margin]
  simp [String.append_assoc]

/-- The rows of a note after the first one are not marked. -/
theorem map_join_laterRows (digits : ℕ) {n : ℕ} (hn : 0 < n) (rows : List (List Char)) :
    (rows.zipIdx n).map (fun row => String.join (margin digits ++
        [if row.2 = 0 then "=" else " ", " ", String.ofList row.1, "\n"])) =
      rows.map fun row => marginText digits ++ "  " ++ String.ofList row ++ "\n" := by
  induction rows generalizing n with
  | nil => rfl
  | cons row rows ih =>
    rw [List.zipIdx_cons, List.map_cons, List.map_cons, ih n.succ_pos, join_row, if_neg hn.ne']
    rfl

theorem join_notePieces (digits : ℕ) (note : String) :
    String.join (notePieces digits note) = noteText digits note := by
  rw [notePieces, join_flatMap, noteText]
  cases Text.rows note.toList with
  | nil => rfl
  | cons row rows =>
    rw [List.zipIdx_cons, List.map_cons, map_join_laterRows digits (Nat.succ_pos 0), join_row,
      if_pos rfl, String.join_cons]
    rfl

/-! ### Diagnostics -/

variable {d : Diagnostic}

/-- **The text of a diagnostic.** -/
theorem render_eq (d : Diagnostic) :
    d.render = d.severity.text ++ ": " ++ d.message ++ "\n" ++
      String.join (d.label.elim [] labelPieces) ++
      String.join (d.notes.map (noteText d.marginWidth)) ++ "\n" := by
  rw [render, pieces, String.join_append, String.join_append, String.join_append, join_flatMap,
    funext (join_notePieces d.marginWidth)]
  simp [headerPieces, String.append_assoc]

theorem render_of_no_label (h : d.label = none) :
    d.render = d.severity.text ++ ": " ++ d.message ++ "\n" ++
      String.join (d.notes.map (noteText 0)) ++ "\n" := by
  rw [render_eq, marginWidth, h]
  simp [String.append_assoc]

end TlvSchema.Diagnostic
