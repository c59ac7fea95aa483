import TlvSchema.Proofs.Identifier
import TlvSchema.Proofs.Logged
import TlvSchema.Resolution

/-!
# When the entries of a container resolve

Resolution scans the entries from the first one to the last one, and each scan keeps what came
before.  Whether it succeeds does not depend on the order: every entry must be complete by itself
(`FieldEntry.Complete`), and the fields that take the places of the entries must fit together
(`Consistent`).  `resolveFields_eq_ok_iff` says so and gives the fields.
-/

namespace TlvSchema

/-! ### Single entries -/

namespace FieldEntry

/-- The entry refers to a definition that the table has, or it does without one and has a name, a
tag and a format. -/
def Complete (table : CommonTable) (e : FieldEntry) : Prop :=
  (∃ reference definition, e.reference = some reference ∧ table.get? reference = some definition) ∨
    e.reference = none ∧ e.name ≠ "" ∧ (∃ tag, e.tag = some tag) ∧ ∃ format, e.format = some format

/-- The field that takes the place of an entry: the definition that it refers to, with the
prerequisite of the entry if it gives one, or the field that it describes itself. -/
def field? (table : CommonTable) (e : FieldEntry) : Option Field :=
  match e.reference with
  | some reference => (table.get? reference).map fun definition =>
    { definition with prerequisite := e.prerequisite.or definition.prerequisite }
  | none => do
    guard (e.name ≠ "")
    let tag ← e.tag
    let format ← e.format
    some ⟨e.name, tag, format, e.prerequisite, e.contents, e.element⟩

variable {table : CommonTable} {e : FieldEntry} {f : Field} {container : String} {index : Nat}

theorem complete_iff : e.Complete table ↔ ∃ f, e.field? table = some f := by
  unfold Complete field?
  cases e.reference with
  | some reference => simp
  | none => simp [guard, Option.bind_eq_some_iff]

theorem toField_eq_ok_iff :
    e.toField = .ok f ↔ e.name ≠ "" ∧ ∃ tag, e.tag = some tag ∧ ∃ format, e.format = some format ∧
      ⟨e.name, tag, format, e.prerequisite, e.contents, e.element⟩ = f := by
  unfold toField
  by_cases hn : e.name = ""
  · simp [hn]
  · cases e.tag with
    | none => simp [hn]
    | some tag => cases e.format <;> simp [hn]

theorem resolve_eq_ok_iff : e.resolve container table index = .ok f ↔ e.field? table = some f := by
  unfold resolve field?
  cases e.reference with
  | some reference =>
    simp only
    cases table.get? reference <;> simp [Field.withPrerequisite]
  | none =>
    have hf : e.toField.mapError (SchemaError.missingAttribute container (e.label index)) = .ok f ↔
        e.toField = .ok f := by
      cases e.toField <;> simp [Except.mapError]
    simp only [hf, toField_eq_ok_iff]
    simp [guard, Option.bind_eq_some_iff]

end FieldEntry

/-- The fields that take the places of the entries. -/
def fieldsOf (table : CommonTable) (entries : List FieldEntry) : List Field :=
  entries.filterMap (·.field? table)

variable {container : String} {table : CommonTable} {entries : List FieldEntry}
variable {fields : List Field}

theorem resolveFrom_eq_ok_iff {index : Nat} :
    resolveFrom container table index entries = .ok fields ↔
      (∀ e ∈ entries, e.Complete table) ∧ fields = fieldsOf table entries := by
  induction entries generalizing index fields with
  | nil => simp [resolveFrom, fieldsOf, eq_comm]
  | cons e es ih =>
    simp only [resolveFrom, bind_eq_ok_iff, FieldEntry.resolve_eq_ok_iff, ih, pure, Except.pure,
      Except.ok.injEq, List.forall_mem_cons, FieldEntry.complete_iff (e := e), fieldsOf]
    constructor
    · rintro ⟨f, hf, _, ⟨hes, rfl⟩, rfl⟩
      exact ⟨⟨⟨f, hf⟩, hes⟩, by rw [List.filterMap_cons_some hf]⟩
    · rintro ⟨⟨⟨f, hf⟩, hes⟩, rfl⟩
      exact ⟨f, hf, _, ⟨hes, rfl⟩, by rw [List.filterMap_cons_some hf]⟩

/-! ### Lists of fields -/

/-- The fields differ in their names and in their tags. -/
def Field.Distinct (f g : Field) : Prop := f.name ≠ g.name ∧ f.tag ≠ g.tag

theorem Field.defect?_eq_none_iff {earlier : List Field} {f : Field} :
    f.defect? container earlier = none ↔
      Identifier.hasWords f.name = true ∧ ∀ g ∈ earlier, g.Distinct f := by
  unfold Field.defect?
  by_cases hw : Identifier.hasWords f.name = true
  · by_cases hn : ∃ g ∈ earlier, g.name = f.name
    · obtain ⟨g, hg, he⟩ := hn
      have hany : earlier.any (·.name = f.name) = true := List.any_eq_true.2 ⟨g, hg, by simpa⟩
      simp only [hw, hany, Bool.not_true, Bool.false_eq_true, if_false, if_true, reduceCtorEq,
        true_and, false_iff]
      exact fun h => (h g hg).1 he
    · have hany : earlier.any (·.name = f.name) = false := by simpa using hn
      simp only [hw, hany, Bool.not_true, Bool.false_eq_true, if_false, Option.map_eq_none_iff,
        List.find?_eq_none, decide_eq_true_eq, true_and]
      refine forall₂_congr fun g hg => ?_
      have hne : g.name ≠ f.name := fun he => hn ⟨g, hg, he⟩
      simp [Field.Distinct, hne]
  · simp [hw]

theorem firstDefect?_eq_none_iff {earlier : List Field} (h : earlier.Pairwise Field.Distinct) :
    firstDefect? container earlier fields = none ↔
      (∀ f ∈ fields, Identifier.hasWords f.name = true) ∧
        (earlier ++ fields).Pairwise Field.Distinct := by
  induction fields generalizing earlier with
  | nil => simpa [firstDefect?] using h
  | cons f fs ih =>
    rw [firstDefect?, Option.or_eq_none_iff, Field.defect?_eq_none_iff]
    by_cases hf : ∀ g ∈ earlier, g.Distinct f
    · -- what has been scanned is still without repetitions
      have h' : (earlier ++ [f]).Pairwise Field.Distinct :=
        List.pairwise_append.2 ⟨h, List.pairwise_singleton _ _, by simpa using hf⟩
      rw [ih h', List.append_assoc, List.singleton_append, List.forall_mem_cons, and_iff_left hf,
        and_assoc]
    · have hno : ¬ (earlier ++ f :: fs).Pairwise Field.Distinct := fun hp =>
        hf fun g hg => (List.pairwise_append.1 hp).2.2 g hg f List.mem_cons_self
      simp only [hf, hno, and_false, false_and]

theorem Field.prerequisiteDefect?_eq_none_iff {f : Field} :
    f.prerequisiteDefect? container fields = none ↔
      ∀ p, f.prerequisite = some p → p ≠ f.name ∧ ∃ g ∈ fields, g.name = p := by
  unfold Field.prerequisiteDefect?
  cases f.prerequisite with
  | none => simp
  | some p => simp [not_or]

/-- The fields of a container fit together. -/
structure Consistent (fields : List Field) : Prop where
  /-- Identifiers can be made of the names. -/
  named : ∀ f ∈ fields, Identifier.hasWords f.name = true
  /-- Names and tags are pairwise different. -/
  distinct : fields.Pairwise Field.Distinct
  /-- Every prerequisite is another field. -/
  prerequisites : ∀ f ∈ fields, ∀ p, f.prerequisite = some p → p ≠ f.name ∧ ∃ g ∈ fields, g.name = p

theorem checkFields_eq_ok_iff : checkFields container fields = .ok () ↔ Consistent fields := by
  have h : checkFields container fields = .ok () ↔
      firstDefect? container [] fields = none ∧
        fields.findSome? (·.prerequisiteDefect? container fields) = none := by
    rw [← Option.or_eq_none_iff, checkFields]
    split <;> simp [*]
  rw [h, firstDefect?_eq_none_iff .nil, List.findSome?_eq_none_iff, List.nil_append]
  simp only [Field.prerequisiteDefect?_eq_none_iff]
  exact ⟨fun ⟨⟨hn, hd⟩, hp⟩ => ⟨hn, hd, hp⟩, fun ⟨hn, hd, hp⟩ => ⟨⟨hn, hd⟩, hp⟩⟩

/-- **Entries resolve if and only if each is complete and their fields fit together.** -/
theorem resolveFields_eq_ok_iff :
    resolveFields container entries table = .ok fields ↔
      (∀ e ∈ entries, e.Complete table) ∧ fields = fieldsOf table entries ∧ Consistent fields := by
  simp only [resolveFields, bind_eq_ok_iff, resolveFrom_eq_ok_iff, pure, Except.pure,
    Except.ok.injEq]
  constructor
  · rintro ⟨fs, ⟨he, rfl⟩, ⟨⟩, hc, rfl⟩
    exact ⟨he, rfl, checkFields_eq_ok_iff.1 hc⟩
  · rintro ⟨he, rfl, hc⟩
    exact ⟨_, ⟨he, rfl⟩, (), checkFields_eq_ok_iff.2 hc, rfl⟩

end TlvSchema
