import TlvSchema.Field

/-!
# Common definitions

A schema may define fields once and refer to them from many containers.

* `CommonTable` — the definitions, each under its reference
* `CommonTable.insert`, `CommonTable.ofList` — building a table
* `CommonTable.get?`, `CommonTable.references` — looking into it
* `CommonTable.sorted` — the definitions in ascending order of their references
-/

namespace TlvSchema

/-- Fields under their references; no reference occurs twice. -/
structure CommonTable where
  /-- The references with their fields, in the order in which they were first added. -/
  entries : List (String × Field)
  /-- The references are pairwise different. -/
  nodup : (entries.map Prod.fst).Nodup

namespace CommonTable

/-! ### Looking into a table -/

/-- The table without definitions. -/
def empty : CommonTable := ⟨[], List.nodup_nil⟩

instance : Inhabited CommonTable := ⟨empty⟩

variable (t : CommonTable)

/-- The definition with a reference. -/
def get? (reference : String) : Option Field := t.entries.lookup reference

/-- The references of the table. -/
def references : List String := t.entries.map Prod.fst

/-- The number of definitions. -/
def size : Nat := t.entries.length

/-- The table has no definitions. -/
def isEmpty : Bool := t.entries.isEmpty

/-- The definitions in ascending order of their references. -/
def sorted : List (String × Field) := t.entries.mergeSort fun a b => a.1 ≤ b.1

/-! ### Building a table -/

/-- Replace the field of a reference, or add the reference at the end. -/
def put (reference : String) (field : Field) : List (String × Field) → List (String × Field)
  | [] => [(reference, field)]
  | e :: es => if e.1 = reference then (reference, field) :: es else e :: put reference field es

theorem map_fst_put (reference : String) (field : Field) (es : List (String × Field)) :
    (put reference field es).map Prod.fst =
      if reference ∈ es.map Prod.fst then es.map Prod.fst else es.map Prod.fst ++ [reference] := by
  induction es with
  | nil => simp [put]
  | cons e es ih =>
    by_cases h : e.1 = reference
    · simp [put, h]
    · have h' : reference ≠ e.1 := fun he => h he.symm
      simp only [put, if_neg h, List.map_cons, ih, List.mem_cons, h', false_or]
      split <;> simp

theorem nodup_put {reference : String} {field : Field} {es : List (String × Field)}
    (h : (es.map Prod.fst).Nodup) : ((put reference field es).map Prod.fst).Nodup := by
  rw [map_fst_put]
  split
  · exact h
  · rename_i hr
    exact List.nodup_append.2 ⟨h, by simp, by
      intro a ha b hb
      simp only [List.mem_singleton] at hb
      exact fun hab => hr (hb ▸ hab ▸ ha)⟩

/-- The table in which the reference has the field. -/
def insert (reference : String) (field : Field) : CommonTable :=
  ⟨put reference field t.entries, nodup_put t.nodup⟩

/-- The table with the definitions given; of two with one reference the last one counts. -/
def ofList (definitions : List (String × Field)) : CommonTable :=
  definitions.foldl (fun t d => t.insert d.1 d.2) empty

end CommonTable

end TlvSchema
