import Mathlib
import TlvSchema.Layout

/-!
# Documents without groups

The width matters only for groups.  A document that has none is laid out in one way: each of its lines
ends where the document says, and its text is put together from the texts of its parts.

* `Rigid` — the document has no group
* `plain` — the text of a document all of whose soft lines end a line
* `plainPieces` — the pieces of that text
* `pieces_of_rigid`, `render_of_rigid` — within any width, a rigid document has these pieces and this text
* `plain_separate` — documents with a separator between each two
-/

namespace TlvSchema.Doc

variable {d first second separator : Doc} {ds : List Doc}

/-! ### Plain text -/

/-- The document has no group. -/
def Rigid : Doc → Prop
  | nil | text _ | hardLine | softLine => True
  | append first second => first.Rigid ∧ second.Rigid
  | nest _ inner => inner.Rigid
  | group _ => False

/-- The text of a document all of whose soft lines end a line. -/
def plain (indent : Nat) : Doc → String
  | nil => ""
  | text s => s
  | hardLine | softLine => lineBreak indent
  | append first second => first.plain indent ++ second.plain indent
  | nest columns inner => inner.plain (indent + columns)
  | group inner => inner.plain indent

/-- The pieces of a document all of whose soft lines end a line. -/
def plainPieces (indent : Nat) : Doc → List String
  | nil => []
  | text s => [s]
  | hardLine | softLine => breakPieces indent
  | append first second => first.plainPieces indent ++ second.plainPieces indent
  | nest columns inner => inner.plainPieces (indent + columns)
  | group inner => inner.plainPieces indent

theorem join_breakPieces (indent : ℕ) : String.join (breakPieces indent) = lineBreak indent := by
  rw [breakPieces, lineBreak]
  by_cases hi : indent = 0
  · subst hi
    rfl
  · simp [hi]

theorem join_plainPieces (d : Doc) (indent : ℕ) :
    String.join (d.plainPieces indent) = d.plain indent := by
  induction d generalizing indent with
  | nil => rfl
  | text s => simp [plainPieces, plain]
  | hardLine | softLine => exact join_breakPieces indent
  | append first second ihFirst ihSecond =>
    rw [plainPieces, plain, String.join_append, ihFirst, ihSecond]
  | nest columns inner ih => exact ih (indent + columns)
  | group inner ih => exact ih indent

theorem layOut_of_rigid (h : d.Rigid) (width : Option ℕ) (indent after column : ℕ) :
    (d.layOut width false indent after column).1 = d.plainPieces indent := by
  induction d generalizing indent after column with
  | nil | text | hardLine | softLine => rfl
  | append first second ihFirst ihSecond =>
    rw [layOut, plainPieces, ihFirst h.1, ihSecond h.2]
  | nest columns inner ih => exact ih h (indent + columns) after column
  | group inner => exact h.elim

/-- **The width does not matter for a rigid document.** -/
theorem pieces_of_rigid (h : d.Rigid) (width : Option ℕ) : d.pieces width = d.plainPieces 0 :=
  layOut_of_rigid h width 0 0 0

theorem render_of_rigid (h : d.Rigid) (width : Option ℕ) : d.render width = d.plain 0 := by
  rw [render, pieces_of_rigid h, join_plainPieces]

/-! ### Arrangements -/

@[simp] theorem plain_append (indent : ℕ) :
    (first ++ second).plain indent = first.plain indent ++ second.plain indent :=
  rfl

theorem rigid_text (s : String) : (text s).Rigid := trivial

theorem rigid_hardLine : hardLine.Rigid := trivial

theorem Rigid.nest (h : d.Rigid) (columns : ℕ) : (nest columns d).Rigid := h

theorem Rigid.append (h : first.Rigid) (h' : second.Rigid) : (first ++ second).Rigid := ⟨h, h'⟩

theorem Rigid.separate (hs : separator.Rigid) (h : ∀ d ∈ ds, d.Rigid) :
    (separate separator ds).Rigid := by
  induction ds with
  | nil => trivial
  | cons d ds ih =>
    have hd := h d List.mem_cons_self
    cases ds with
    | nil => exact hd
    | cons d' ds => exact (hd.append hs).append (ih fun e he => h e (List.mem_cons_of_mem d he))

theorem Rigid.block {columns : ℕ} {header : Doc} (hh : header.Rigid) (h : ∀ d ∈ ds, d.Rigid) :
    (block columns header ds).Rigid := by
  cases ds with
  | nil => exact hh.append (rigid_text _)
  | cons d ds =>
    have hlines := (rigid_hardLine.append (Rigid.separate rigid_hardLine h)).nest columns
    exact (((hh.append (rigid_text _)).append hlines).append rigid_hardLine).append (rigid_text _)

/-- The separator stands between the texts of the documents. -/
theorem plain_separate (separator : Doc) (ds : List Doc) (indent : ℕ) :
    (separate separator ds).plain indent =
      String.intercalate (separator.plain indent) (ds.map (plain indent)) := by
  induction ds with
  | nil => rfl
  | cons d ds ih =>
    cases ds with
    | nil => simp [separate]
    | cons d' ds =>
      rw [separate, plain_append, plain_append, ih, List.map_cons, List.map_cons, List.map_cons,
        String.intercalate_cons_cons]
      exact List.cons_ne_nil d' ds

end TlvSchema.Doc
