import TlvSchema.Proofs.FirstFailure
import TlvSchema.Proofs.Resolution

/-!
# Which defect of a container is reported

The entries of a container are scanned three times: for entries that no field can take the place of, for
names and tags that are in the way of each other, and for prerequisites.  A scan stops at the first
defect, so that of all the defects only one is reported.

* `FieldEntry.FirstMissing` — the attribute that an entry is said to lack
* `FieldsReported` — what is reported of fields
* `EntriesReported` — what is reported of entries
* `resolveFields_eq_error_iff` — the entries of a container fail with what is reported of them
* `resolution_report` — either this is reported, or every entry has its field
-/

namespace TlvSchema

/-! ### Single entries -/

namespace FieldEntry

/-- The attribute is the first one that the entry lacks. -/
def FirstMissing (e : FieldEntry) : Attribute → Prop
  | .name => e.name = ""
  | .id => e.name ≠ "" ∧ e.tag = none
  | .format => e.name ≠ "" ∧ e.tag ≠ none ∧ e.format = none

variable {table : CommonTable} {e : FieldEntry} {container : String} {index : ℕ} {d : SchemaError}

theorem toField_eq_error_iff {a : Attribute} : e.toField = .error a ↔ e.FirstMissing a := by
  unfold toField
  by_cases hn : e.name = ""
  · cases a <;> simp [hn, FirstMissing]
  · cases ht : e.tag with
    | none => cases a <;> simp [hn, ht, FirstMissing]
    | some tag => cases hf : e.format <;> cases a <;> simp [hn, ht, hf, FirstMissing]

theorem label_eq (e : FieldEntry) (index : ℕ) :
    e.label index = if e.name = "" then "#" ++ toString (index + 1) else e.name := by
  by_cases hn : e.name = "" <;> simp [label, hn]

theorem resolve_eq_error_iff : e.resolve container table index = .error d ↔
    (∃ reference, e.reference = some reference ∧ table.get? reference = none ∧
      .unknownReference container (e.label index) reference
        (Text.suggestion? reference table.references) = d) ∨
    e.reference = none ∧ ∃ a, e.FirstMissing a ∧ .missingAttribute container (e.label index) a = d := by
  unfold resolve
  cases hr : e.reference with
  | none =>
    simp only [reduceCtorEq, false_and, exists_false, false_or, true_and]
    rw [mapError_eq_error_iff]
    simp only [toField_eq_error_iff]
  | some reference =>
    cases ht : table.get? reference <;> simp [ht]

end FieldEntry

variable {container : String} {table : CommonTable} {entries : List FieldEntry}
  {fields earlier : List Field} {f : Field} {d : SchemaError}

theorem resolveFrom_eq_error_iff {index : ℕ} :
    resolveFrom container table index entries = .error d ↔
      ∃ before e, before ++ [e] <+: entries ∧ (∀ e' ∈ before, e'.Complete table) ∧
        e.resolve container table (index + before.length) = .error d := by
  induction entries generalizing index with
  | nil => simp [resolveFrom]
  | cons e es ih =>
    rw [resolveFrom, bind_eq_error_iff, exists_first_cons_iff]
    simp only [bind_eq_error_iff, ih, pure, Except.pure, reduceCtorEq, and_false, exists_false,
      or_false, FieldEntry.resolve_eq_ok_iff, exists_and_right, ← FieldEntry.complete_iff,
      List.not_mem_nil, false_imp_iff, implies_true, true_and, List.length_nil, Nat.add_zero,
      List.forall_mem_cons, List.length_cons]
    simp only [and_assoc, and_left_comm (b := e.Complete table), exists_and_left, Nat.add_assoc,
      Nat.add_comm 1]

theorem forall₂_field?_iff :
    List.Forall₂ (fun e f => e.field? table = some f) entries fields ↔
      (∀ e ∈ entries, e.Complete table) ∧ fields = fieldsOf table entries := by
  induction entries generalizing fields with
  | nil => simp [fieldsOf]
  | cons e es ih =>
    rw [List.forall_mem_cons, FieldEntry.complete_iff, List.forall₂_cons_left_iff]
    simp only [ih, fieldsOf]
    constructor
    · rintro ⟨f, fs, hf, ⟨hes, rfl⟩, rfl⟩
      exact ⟨⟨⟨f, hf⟩, hes⟩, by rw [List.filterMap_cons_some hf]⟩
    · rintro ⟨⟨⟨f, hf⟩, hes⟩, rfl⟩
      exact ⟨f, _, hf, ⟨hes, rfl⟩, by rw [List.filterMap_cons_some hf]⟩

/-! ### Fields -/

/-- The names have words, and names and tags are pairwise different. -/
structure Identifiable (fields : List Field) : Prop where
  /-- Identifiers can be made of the names. -/
  named : ∀ f ∈ fields, Identifier.hasWords f.name = true
  /-- Names and tags are pairwise different. -/
  distinct : fields.Pairwise Field.Distinct

/-- The prerequisite, if there is one, is another one of the fields. -/
def Field.Supported (fields : List Field) (f : Field) : Prop :=
  ∀ p, f.prerequisite = some p → p ≠ f.name ∧ ∃ g ∈ fields, g.name = p

/-- What is reported of fields: the first one without words or with the name or the tag of an earlier
one, and if there is none, the first one whose prerequisite is not another field. -/
inductive FieldsReported (container : String) (fields : List Field) : SchemaError → Prop
  /-- The first field in the way has a name without words. -/
  | invalidName {before : List Field} {f : Field} :
    before ++ [f] <+: fields → Identifiable before → Identifier.hasWords f.name = false →
      FieldsReported container fields (.invalidName container f.name)
  /-- The first field in the way has the name of an earlier one. -/
  | duplicateField {before : List Field} {f : Field} :
    before ++ [f] <+: fields → Identifiable before → Identifier.hasWords f.name = true →
      f.name ∈ before.map (·.name) →
        FieldsReported container fields (.duplicateField container f.name)
  /-- The first field in the way has the tag of an earlier one, which is the only one with it. -/
  | duplicateTag {before : List Field} {f first : Field} :
    before ++ [f] <+: fields → Identifiable before → Identifier.hasWords f.name = true →
      f.name ∉ before.map (·.name) → before.filter (·.tag = f.tag) = [first] →
        FieldsReported container fields (.duplicateTag container first.name f.name f.tag)
  /-- No field is in the way, and this is the first one that is not supported. -/
  | unknownPrerequisite {before : List Field} {f : Field} {p : String} :
    Identifiable fields → before ++ [f] <+: fields → (∀ g ∈ before, g.Supported fields) →
      f.prerequisite = some p → p = f.name ∨ p ∉ fields.map (·.name) →
        FieldsReported container fields (.unknownPrerequisite container f.name p)

theorem firstDefect?_eq_some_iff :
    firstDefect? container earlier fields = some d ↔
      ∃ before f, before ++ [f] <+: fields ∧ firstDefect? container earlier before = none ∧
        f.defect? container (earlier ++ before) = some d := by
  induction fields generalizing earlier with
  | nil => simp [firstDefect?]
  | cons f fs ih =>
    rw [firstDefect?, exists_first_cons_iff, Option.or_eq_some_iff, ih]
    simp only [firstDefect?, Option.or_eq_none_iff, List.append_assoc, List.singleton_append,
      List.append_nil, true_and]
    simp only [and_assoc, and_left_comm (b := f.defect? container earlier = none), exists_and_left]

theorem identifiable_iff : Identifiable fields ↔ firstDefect? container [] fields = none := by
  rw [firstDefect?_eq_none_iff .nil, List.nil_append]
  exact ⟨fun h => ⟨h.named, h.distinct⟩, fun h => ⟨h.1, h.2⟩⟩

theorem Field.defect?_eq_some_iff (h : Identifiable earlier) :
    f.defect? container earlier = some d ↔
      Identifier.hasWords f.name = false ∧ .invalidName container f.name = d ∨
      Identifier.hasWords f.name = true ∧ f.name ∈ earlier.map (·.name) ∧
        .duplicateField container f.name = d ∨
      Identifier.hasWords f.name = true ∧ f.name ∉ earlier.map (·.name) ∧
        ∃ first, earlier.filter (·.tag = f.tag) = [first] ∧
          .duplicateTag container first.name f.name f.tag = d := by
  have htags : (earlier.map (·.tag)).Nodup := List.pairwise_map.2 (h.distinct.imp And.right)
  have hany : earlier.any (·.name = f.name) = true ↔ f.name ∈ earlier.map (·.name) := by simp
  unfold Field.defect?
  by_cases hw : Identifier.hasWords f.name = true
  · by_cases hn : f.name ∈ earlier.map (·.name)
    · simp [hw, hn, hany.2 hn]
    · have hnone : earlier.any (·.name = f.name) = false := by simpa [hany] using hn
      simp only [hw, hn, hnone, filter_key_eq_singleton_iff htags]
      simp
  · simp [hw]

theorem Field.prerequisiteDefect?_eq_some_iff :
    f.prerequisiteDefect? container fields = some d ↔
      ∃ p, f.prerequisite = some p ∧ (p = f.name ∨ p ∉ fields.map (·.name)) ∧
        .unknownPrerequisite container f.name p = d := by
  unfold Field.prerequisiteDefect?
  cases f.prerequisite with
  | none => simp
  | some p => simp

/-- Fields fail the check with what is reported of them. -/
theorem checkFields_eq_error_iff :
    checkFields container fields = .error d ↔ FieldsReported container fields d := by
  have hcheck : checkFields container fields = .error d ↔
      (firstDefect? container [] fields).or
        (fields.findSome? (·.prerequisiteDefect? container fields)) = some d := by
    rw [checkFields]
    split <;> simp [*]
  rw [hcheck, Option.or_eq_some_iff, firstDefect?_eq_some_iff, ← identifiable_iff,
    findSome?_eq_some_iff_first]
  simp only [List.nil_append, ← identifiable_iff, Field.prerequisiteDefect?_eq_none_iff,
    Field.prerequisiteDefect?_eq_some_iff]
  constructor
  · rintro (⟨before, f, hp, hbefore, hf⟩ | ⟨hall, before, f, hp, hbefore, p, hf, hno, rfl⟩)
    · rcases (Field.defect?_eq_some_iff hbefore).1 hf with
        ⟨hw, rfl⟩ | ⟨hw, hname, rfl⟩ | ⟨hw, hname, first, htag, rfl⟩
      · exact .invalidName hp hbefore hw
      · exact .duplicateField hp hbefore hw hname
      · exact .duplicateTag hp hbefore hw hname htag
    · exact .unknownPrerequisite hall hp hbefore hf hno
  · intro h
    cases h with
    | invalidName hp hbefore hw =>
      refine .inl ⟨_, _, hp, hbefore, (Field.defect?_eq_some_iff hbefore).2 ?_⟩
      exact .inl ⟨hw, rfl⟩
    | duplicateField hp hbefore hw hname =>
      refine .inl ⟨_, _, hp, hbefore, (Field.defect?_eq_some_iff hbefore).2 ?_⟩
      exact .inr (.inl ⟨hw, hname, rfl⟩)
    | duplicateTag hp hbefore hw hname htag =>
      refine .inl ⟨_, _, hp, hbefore, (Field.defect?_eq_some_iff hbefore).2 ?_⟩
      exact .inr (.inr ⟨hw, hname, _, htag, rfl⟩)
    | unknownPrerequisite hall hp hbefore hf hno =>
      exact .inr ⟨hall, _, _, hp, hbefore, _, hf, hno, rfl⟩

/-! ### Reports -/

/-- What is reported of the entries of a container: the first one that no field can take the place of,
and if there is none, what is reported of the fields.  A nameless entry is called by its place, counted
from one. -/
inductive EntriesReported (container : String) (table : CommonTable) (entries : List FieldEntry) :
    SchemaError → Prop
  /-- The first entry that is not complete refers to a definition that does not exist. -/
  | unknownReference {before : List FieldEntry} {e : FieldEntry} {reference : String} :
    before ++ [e] <+: entries → (∀ e' ∈ before, e'.Complete table) →
      e.reference = some reference → table.get? reference = none →
        EntriesReported container table entries
          (.unknownReference container
            (if e.name = "" then "#" ++ toString (before.length + 1) else e.name) reference
            (Text.suggestion? reference table.references))
  /-- The first entry that is not complete lacks an attribute. -/
  | missingAttribute {before : List FieldEntry} {e : FieldEntry} {a : Attribute} :
    before ++ [e] <+: entries → (∀ e' ∈ before, e'.Complete table) →
      e.reference = none → e.FirstMissing a →
        EntriesReported container table entries
          (.missingAttribute container
            (if e.name = "" then "#" ++ toString (before.length + 1) else e.name) a)
  /-- Every entry has its field, and the defect is one of the fields. -/
  | fields {fields : List Field} {d : SchemaError} :
    List.Forall₂ (fun e f => e.field? table = some f) entries fields →
      FieldsReported container fields d → EntriesReported container table entries d

/-- **The entries of a container fail with what is reported of them.** -/
theorem resolveFields_eq_error_iff :
    resolveFields container entries table = .error d ↔ EntriesReported container table entries d := by
  have hsplit : resolveFields container entries table = .error d ↔
      resolveFrom container table 0 entries = .error d ∨
        ∃ fields, resolveFrom container table 0 entries = .ok fields ∧
          checkFields container fields = .error d := by
    simp [resolveFields, bind_eq_error_iff, pure, Except.pure]
  rw [hsplit, resolveFrom_eq_error_iff]
  simp only [resolveFrom_eq_ok_iff, ← forall₂_field?_iff, checkFields_eq_error_iff,
    FieldEntry.resolve_eq_error_iff, FieldEntry.label_eq, Nat.zero_add]
  constructor
  · rintro (⟨before, e, hp, hbefore, ⟨reference, hr, ht, rfl⟩ | ⟨hr, a, ha, rfl⟩⟩ | ⟨fs, hfs, hd⟩)
    · exact .unknownReference hp hbefore hr ht
    · exact .missingAttribute hp hbefore hr ha
    · exact .fields hfs hd
  · intro h
    cases h with
    | unknownReference hp hbefore hr ht =>
      exact .inl ⟨_, _, hp, hbefore, .inl ⟨_, hr, ht, rfl⟩⟩
    | missingAttribute hp hbefore hr ha =>
      exact .inl ⟨_, _, hp, hbefore, .inr ⟨hr, _, ha, rfl⟩⟩
    | fields hfs hd => exact .inr ⟨_, hfs, hd⟩

theorem EntriesReported.container_eq (h : EntriesReported container table entries d) :
    d.container = container := by
  cases h with
  | unknownReference | missingAttribute => rfl
  | fields _ hd => cases hd <;> rfl

/-- **The report of a resolution.**  The entries of a container fail with exactly the defect that is
reported of them, which names the container.  If there is nothing to report, they are replaced one by one
by their fields. -/
theorem resolution_report (container : String) (entries : List FieldEntry) (table : CommonTable) :
    (∀ d, resolveFields container entries table = .error d ↔
      EntriesReported container table entries d) ∧
    (∀ d, EntriesReported container table entries d → d.container = container) ∧
    ∀ fields, resolveFields container entries table = .ok fields ↔
      (¬ ∃ d, EntriesReported container table entries d) ∧
        List.Forall₂ (fun e f => e.field? table = some f) entries fields := by
  refine ⟨fun d => resolveFields_eq_error_iff, fun d => EntriesReported.container_eq, fun fields => ?_⟩
  simp only [← resolveFields_eq_error_iff, forall₂_field?_iff]
  constructor
  · intro h
    obtain ⟨hcomplete, hfields, -⟩ := resolveFields_eq_ok_iff.1 h
    exact ⟨by simp [h], hcomplete, hfields⟩
  · rintro ⟨hno, -, rfl⟩
    cases hr : resolveFields container entries table with
    | error d => exact absurd ⟨d, hr⟩ hno
    | ok fs => rw [(resolveFields_eq_ok_iff.1 hr).2.1]

/-- The first entry depends on a field that does not exist, the second one refers to a definition that
does not exist, and the third one has the name of the first one and lacks a tag. -/
def defectiveEntries : List FieldEntry :=
  [⟨"Foo", some ⟨1⟩, some "guint8", none, some "Bar", [], none⟩,
    ⟨"", none, none, some "Baz", none, [], none⟩, ⟨"Foo", none, none, none, none, [], none⟩]

theorem resolution_report_defectiveEntries :
    resolveFields "Msg A Input" defectiveEntries .empty =
      .error (.unknownReference "Msg A Input" "#2" "Baz" none) := by
  obtain ⟨herror, -, -⟩ := resolution_report "Msg A Input" defectiveEntries .empty
  have hbefore : ∀ e ∈ defectiveEntries.take 1, e.Complete .empty := by
    intro e he
    obtain rfl := List.mem_singleton.1 he
    exact .inr ⟨rfl, by decide, ⟨_, rfl⟩, _, rfl⟩
  exact (herror _).2 (.unknownReference (List.take_prefix 2 defectiveEntries) hbefore rfl rfl)

end TlvSchema
