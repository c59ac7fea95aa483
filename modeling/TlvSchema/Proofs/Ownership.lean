import TlvSchema.Proofs.Interruption
import TlvSchema.Proofs.SlotTypes

/-!
# Values that own storage

Texts and arrays own storage of their own, and a value owns what lies anywhere in its tree.  Whether it
does is told by its type alone, so that one of the values of a type owns storage if and only if all of
them do.  The fields whose storage is released with a container are those whose values own storage.

* `Within` — the values in the tree of a value
* `OwnsStorage` — a text or an array lies in the tree
* `ownsStorage_iff` — the values of a type own storage if and only if the type says so
* `scheduled_releases` — what an emission releases
* `Store.ownership` — all of it, for types, for emissions and for the containers of a run
-/

namespace TlvSchema

/-! ### Trees of values -/

namespace Value

/-- The first value is the second one or lies in its tree. -/
inductive Within : Value → Value → Prop
  /-- A value lies in its own tree. -/
  | self (v : Value) : Within v v
  /-- The tree of an array has those of its elements. -/
  | element {elements : List Value} {v w : Value} :
    v ∈ elements → Within w v → Within w (.array elements)
  /-- The tree of a struct has those of its members. -/
  | member {members : List Value} {v w : Value} :
    v ∈ members → Within w v → Within w (.struct members)

/-- A text or an array lies somewhere in the tree of the value. -/
def OwnsStorage (v : Value) : Prop :=
  ∃ w, Within w v ∧ ((∃ text, w = .string text) ∨ ∃ elements, w = .array elements)

variable {v : Value} {vs : List Value}

theorem ownsStorage_string (text : String) : OwnsStorage (.string text) :=
  ⟨_, .self _, .inl ⟨text, rfl⟩⟩

theorem ownsStorage_array (elements : List Value) : OwnsStorage (.array elements) :=
  ⟨_, .self _, .inr ⟨elements, rfl⟩⟩

theorem ownsStorage_struct_iff : OwnsStorage (.struct vs) ↔ ∃ v ∈ vs, v.OwnsStorage := by
  constructor
  · rintro ⟨w, hw, ho⟩
    cases hw with
    | self => simp at ho
    | member hv hw => exact ⟨_, hv, w, hw, ho⟩
  · rintro ⟨v, hv, w, hw, ho⟩
    exact ⟨w, .member hv hw, ho⟩

/-- A value of fixed size is its whole tree. -/
theorem not_ownsStorage_of_isScalar {kind : Scalar} (h : v.isScalar kind = true) :
    ¬ v.OwnsStorage := by
  rintro ⟨w, hw, ho⟩
  cases hw with
  | self => rcases ho with ⟨text, rfl⟩ | ⟨elements, rfl⟩ <;> simp [isScalar] at h
  | element => simp [isScalar] at h
  | member => simp [isScalar] at h

/-! ### Values of a type -/

theorem hasType_scalar (v : Value) (kind : Scalar) : v.hasType (.scalar kind) = v.isScalar kind := by
  cases v <;> simp [hasType]

theorem hasType_string_iff : v.hasType .string = true ↔ ∃ text, v = .string text := by
  cases v <;> simp [hasType]

theorem exists_eq_array {type : FieldType} (h : v.hasType (.array type) = true) :
    ∃ elements, v = .array elements := by
  cases v <;> simp [hasType] at h ⊢

theorem hasType_struct_iff {members : List (String × FieldType)} :
    v.hasType (.struct members) = true ↔ ∃ vs, v = .struct vs ∧ haveTypes vs members = true := by
  cases v <;> simp [hasType]

mutual

/-- **The values of a type own storage if and only if the type says so.** -/
theorem ownsStorage_iff : ∀ (type : FieldType) (v : Value), v.hasType type = true →
    (v.OwnsStorage ↔ type.storage = .owned)
  | .scalar kind, v, h => by
    rw [hasType_scalar] at h
    simp [not_ownsStorage_of_isScalar h, FieldType.storage]
  | .string, v, h => by
    obtain ⟨text, rfl⟩ := hasType_string_iff.1 h
    simp [ownsStorage_string, FieldType.storage]
  | .array type, v, h => by
    obtain ⟨elements, rfl⟩ := exists_eq_array h
    simp [ownsStorage_array, FieldType.storage]
  | .struct members, v, h => by
    obtain ⟨vs, rfl, hvs⟩ := hasType_struct_iff.1 h
    rw [ownsStorage_struct_iff, FieldType.storage]
    exact exists_ownsStorage_iff members vs hvs

/-- One of the members of a struct owns storage if and only if the types of the members say so. -/
theorem exists_ownsStorage_iff : ∀ (members : List (String × FieldType)) (vs : List Value),
    haveTypes vs members = true →
      ((∃ v ∈ vs, v.OwnsStorage) ↔ FieldType.membersStorage members = .owned)
  | [], vs, h => by
    cases vs with
    | nil => simp [FieldType.membersStorage]
    | cons v vs => simp [haveTypes] at h
  | (name, type) :: members, vs, h => by
    cases vs with
    | nil => simp [haveTypes] at h
    | cons v vs =>
      rw [haveTypes, Bool.and_eq_true] at h
      rw [List.exists_mem_cons_iff, ownsStorage_iff type v h.1,
        exists_ownsStorage_iff members vs h.2, FieldType.membersStorage]
      by_cases hs : type.storage = .owned <;> simp [hs]

end

/-- A type has a value that owns storage if and only if it says so. -/
theorem exists_hasType_ownsStorage_iff {type : FieldType} :
    (∃ v : Value, v.hasType type = true ∧ v.OwnsStorage) ↔ type.storage = .owned := by
  constructor
  · rintro ⟨v, hv, ho⟩
    exact (ownsStorage_iff type v hv).1 ho
  · intro hs
    have hd : (default type).hasType type = true := hasType_default type
    exact ⟨default type, hd, (ownsStorage_iff type _ hd).2 hs⟩

end Value

/-! ### Releases -/

/-- The pieces of code that a call asks to run when the last reference is given back. -/
def Call.releases {φ : Type} : Call φ → List φ
  | .lifecycle _ _ releases => releases
  | _ => []

namespace Model

variable {φ : Type} {m : Model} {f : FieldModel}

theorem mem_ownedFields_iff : f ∈ m.ownedFields ↔ f ∈ m.fields ∧ f.type.storage = .owned := by
  rw [ownedFields, List.mem_filter, decide_eq_true_eq, FieldModel.storage]

/-- An emission releases the fields that own storage, in their order. -/
theorem scheduled_releases (code : FieldCode φ) (m : Model) :
    (m.calls code).flatMap Call.releases = m.ownedFields.map code.release := by
  have haccessors : (m.fields.flatMap m.accessorCalls).flatMap (Call.releases (φ := φ)) = [] := by
    rw [List.flatMap_assoc, List.flatMap_eq_nil_iff]
    intro f _
    by_cases hd : m.direction = .input <;> simp [accessorCalls, hd, Call.releases]
  -- declarations and wire tags release nothing either
  have hnone {α : Type} (l : List α) : l.flatMap (fun _ => ([] : List φ)) = [] :=
    List.flatMap_eq_nil_iff.2 fun _ _ => rfl
  rw [calls]
  by_cases hf : m.hasFields = true
  · rw [if_pos hf]
    simp [List.flatMap_map, haccessors, hnone, Call.releases]
  · have hn : m.declared = none := by simpa [hasFields] using hf
    rw [if_neg hf]
    simp [Call.releases, ownedFields, fields, hn]

open Classical in
/-- The fields that are released are those with values that own storage. -/
theorem ownedFields_eq_filter (m : Model) : m.ownedFields =
    m.fields.filter fun f => ∃ v : Value, v.hasType f.type = true ∧ v.OwnsStorage := by
  rw [ownedFields]
  refine List.filter_congr fun f _ => decide_eq_decide.2 ?_
  rw [Value.exists_hasType_ownsStorage_iff, FieldModel.storage]

end Model

/-! ### Containers of a run -/

namespace Store

variable {steps : List Step} {n i : ℕ} {c : Container} {f : FieldModel} {v : Value}

/-- In every container that is alive, a value owns storage if and only if its field is released. -/
theorem ownsStorage_iff_mem_ownedFields (hc : (after steps).container? n = some c)
    (hf : c.model.fields[i]? = some f) (hv : c.slots[i]? = some (some v)) :
    v.OwnsStorage ↔ f ∈ c.model.ownedFields := by
  have htype : v.hasType f.type = true := (fits_after steps n c hc).types i f v hf hv
  rw [Value.ownsStorage_iff f.type v htype, Model.mem_ownedFields_iff,
    and_iff_right (List.mem_of_getElem? hf)]

open Classical in
/-- **Ownership follows the type.**  A value of a type has a text or an array in its tree if and only if
the storage of the type is owned, and the default of a type is a value of the type.  An emission releases
exactly the fields that can have a value with storage of its own, each in its place, and in the
containers of a run exactly the values of these fields have storage of their own. -/
theorem ownership :
    (∀ (type : FieldType) (v : Value), v.hasType type = true →
      (v.OwnsStorage ↔ type.storage = .owned)) ∧
    (∀ type : FieldType, (Value.default type).hasType type = true) ∧
    (∀ (φ : Type) (code : FieldCode φ) (m : Model),
      ((m.emit code Model.noting).run []).2.flatMap Call.releases =
        (m.fields.filter fun f => ∃ v : Value, v.hasType f.type = true ∧ v.OwnsStorage).map
          code.release) ∧
    ∀ (steps : List Step) (n : ℕ) (c : Container), (after steps).container? n = some c →
      ∀ (i : ℕ) (f : FieldModel) (v : Value), c.model.fields[i]? = some f →
        c.slots[i]? = some (some v) → (v.OwnsStorage ↔ f ∈ c.model.ownedFields) := by
  refine ⟨Value.ownsStorage_iff, Value.hasType_default, fun φ code m => ?_, ?_⟩
  · rw [Model.run_emit_noting, Model.scheduled_releases, Model.ownedFields_eq_filter]
  · intro steps n c hc i f v hf hv
    exact ownsStorage_iff_mem_ownedFields hc hf hv

/-- A struct in which a struct has an array. -/
def nestedType : FieldType :=
  .struct [("Id", .scalar .u8), ("Rest", .struct [("Flag", .scalar .bool), ("Names", .array .string)])]

/-- A value of that type. -/
def nestedValue : Value := .struct [.u8 1, .struct [.bool true, .array []]]

/-- A number and that struct. -/
def nestedFields : List Field :=
  [⟨"Foo", ⟨1⟩, "guint8", none, [], none⟩,
    ⟨"Bar", ⟨2⟩, "struct", none, [⟨"Id", "guint8", [], none⟩,
      ⟨"Rest", "sequence", [⟨"Flag", "gboolean", [], none⟩,
        ⟨"Names", "array", [], some ⟨"", "string", [], none⟩⟩], none⟩], none⟩]

/-- The model of these fields. -/
def nestedModel : Model where
  fullName := "Msg A Output"
  direction := .output
  declared := some
    [⟨"Foo", ⟨1⟩, "MSG_A_OUTPUT_TLV_FOO", "guint8", .scalar .u8, none, "msg_a_output_get_foo", none⟩,
      ⟨"Bar", ⟨2⟩, "MSG_A_OUTPUT_TLV_BAR", "struct", nestedType, none, "msg_a_output_get_bar", none⟩]

theorem build_nestedFields :
    Model.build "Msg A Output" .output (some nestedFields) = .ok nestedModel := rfl

/-- Both fields are decoded. -/
def nestedSteps : List Step :=
  [.decode "a" nestedModel [("Foo", .u8 7), ("Bar", nestedValue)]]

theorem ownership_nestedValue :
    Model.build "Msg A Output" .output (some nestedFields) = .ok nestedModel ∧
      nestedValue.hasType nestedType = true ∧ nestedValue.OwnsStorage ∧
      (after nestedSteps).container? 0 =
        some ⟨nestedModel, 1, [some (.u8 7), some nestedValue]⟩ ∧
      ¬ (Value.u8 7).OwnsStorage ∧ nestedModel.ownedFields.map (·.name) = ["Bar"] := by
  obtain ⟨htypes, -, -, hslots⟩ := ownership
  have ht : nestedValue.hasType nestedType = true := by decide
  have hc : (after nestedSteps).container? 0 =
      some ⟨nestedModel, 1, [some (.u8 7), some nestedValue]⟩ := rfl
  have hfoo := hslots nestedSteps 0 _ hc 0 _ (.u8 7) rfl rfl
  refine ⟨build_nestedFields, ht, (htypes nestedType nestedValue ht).2 rfl, hc, fun ho => ?_, rfl⟩
  -- the number is not among the fields that are released
  have hmem := List.mem_map_of_mem (f := FieldModel.name) (hfoo.1 ho)
  exact absurd hmem (by decide)

end Store

end TlvSchema
