import TlvSchema.Proofs.Lookup
import TlvSchema.Proofs.Model

/-!
# Lookups and function names of a model

Nothing checks the names of fields when a model is built, only the symbols of their wire tags.  But two
fields share a symbol if and only if their names have the same words, so a model has neither two fields
of one name nor two accessor functions of one name.

* `Built` — the model consists of the models of some fields
* `Built.fieldIndex?_eq_some_iff` — a name leads to the one field that has it
* `Built.lookup_fieldTable` — so does a table that is filled field by field
* `Built.isSome_operationName_iff` — the operations of a model are those with a function name
* `Built.ending_injective` — no two of them have one function name
* `build_contract` — all of it for the model of a list of fields
-/

namespace TlvSchema

namespace Model

variable {fullName name : String} {direction : Direction} {fields : Option (List Field)} {m : Model}
  {i j : ℕ} {op : Operation}

/-! ### Operations -/

theorem mem_operations_iff :
    op ∈ m.operations ↔
      match op with
      | .create => m.direction = .input
      | .retain | .release => True
      | .get i => i < m.fields.length
      | .set i => i < m.fields.length ∧ m.direction = .input := by
  cases hd : m.direction <;> cases op <;> simp [operations, lifecycle, fieldOperations, hd]

theorem nodup_operations : m.operations.Nodup := by
  rw [operations, List.nodup_append, List.nodup_flatMap]
  refine ⟨?_, ⟨fun i _ => ?_, ?_⟩, ?_⟩
  · cases hd : m.direction <;> simp [lifecycle, hd]
  · cases hd : m.direction <;> simp [fieldOperations, hd]
  · -- the operations on one field are not those on another one
    refine List.nodup_range.imp fun {i j} hij op hi hj => hij ?_
    cases hd : m.direction <;> simp [fieldOperations, hd] at hi hj <;> grind
  · intro a ha b hb hab
    subst hab
    cases hd : m.direction <;> simp [lifecycle, fieldOperations, hd] at ha hb <;> grind

/-- The function name of an operation after the stem. -/
def ending (m : Model) : Operation → String
  | .create => "_new"
  | .retain => "_ref"
  | .release => "_unref"
  | .get i => "_get_" ++ Identifier.snake ((m.fields[i]?.map (·.name)).getD "")
  | .set i => "_set_" ++ Identifier.snake ((m.fields[i]?.map (·.name)).getD "")

/-- The places of the fields by their names, noted field by field; what is noted last is found first. -/
def fieldTable (m : Model) : List (String × ℕ) :=
  m.fields.zipIdx.foldl (fun table field => (field.1.name, field.2) :: table) []

theorem fieldTable_eq :
    m.fieldTable = (m.fields.zipIdx.map fun field => (field.1.name, field.2)).reverse := by
  rw [fieldTable, List.foldl_flip_cons_eq_append, List.append_nil]

/-! ### Models that have been built -/

/-- The model consists of the models of several fields, no two of which have one symbol. -/
structure Built (m : Model) (fields : List Field) : Prop where
  /-- The models of the fields are in the order of the fields. -/
  models : List.Forall₂ (fun f g => f.model m.fullName m.direction = .ok g) fields m.fields
  /-- The symbols are pairwise different. -/
  symbols : m.fields.Pairwise fun g g' => g.symbol ≠ g'.symbol

theorem of_build (h : build fullName direction fields = .ok m) :
    m.fullName = fullName ∧ m.direction = direction ∧ m.hasFields = fields.isSome ∧
      Built m (fields.getD []) := by
  cases fields with
  | none =>
    cases h
    exact ⟨rfl, rfl, rfl, .nil, .nil⟩
  | some fields =>
    obtain ⟨gs, hg, hp, rfl⟩ := build_eq_ok_iff.1 h
    exact ⟨rfl, rfl, rfl, hg, hp⟩

namespace Built

variable {fs : List Field} (h : Built m fs)

include h

/-! ### Names of fields -/

theorem exists_getElem (hi : i < m.fields.length) :
    ∃ f ∈ fs, ∃ type, m.fields[i] = f.modelOfType m.fullName m.direction type := by
  obtain ⟨hlen, hget⟩ := List.forall₂_iff_get.1 h.models
  have hf : i < fs.length := hlen ▸ hi
  obtain ⟨-, type, -, he⟩ := Field.model_eq_ok_iff.1 (hget i hf hi)
  exact ⟨fs[i], List.getElem_mem hf, type, he.symm⟩

theorem symbol_getElem (hi : i < m.fields.length) :
    m.fields[i].symbol = Identifier.wireTagSymbol m.fullName m.fields[i].name := by
  obtain ⟨f, -, type, he⟩ := h.exists_getElem hi
  rw [he]
  rfl

/-- Fields at different places have names with different words. -/
theorem eq_of_sameWords (hi : i < m.fields.length) (hj : j < m.fields.length)
    (hw : Identifier.SameWords m.fields[i].name m.fields[j].name) : i = j := by
  have hn : (m.fields.map (·.symbol)).Nodup := List.pairwise_map.2 h.symbols
  have hs : m.fields[i].symbol = m.fields[j].symbol := by
    rw [h.symbol_getElem hi, h.symbol_getElem hj]
    exact Identifier.wireTagSymbol_eq_iff.2 hw
  exact (@List.Nodup.getElem_inj_iff _ _ hn i (by simpa) j (by simpa)).1 (by simpa using hs)

theorem nodup_names : (m.fields.map (·.name)).Nodup := by
  rw [List.Nodup, List.pairwise_iff_getElem]
  intro i j hi hj hij he
  rw [List.length_map] at hi hj
  rw [List.getElem_map, List.getElem_map] at he
  exact Nat.ne_of_lt hij (h.eq_of_sameWords hi hj (.of_eq he))

theorem fieldIndex?_eq_some_iff :
    m.fieldIndex? name = some i ↔ ∃ hi : i < m.fields.length, m.fields[i].name = name :=
  findIdx?_key_eq_some_iff h.nodup_names

/-- A field is found through the table of all fields as it is by going through them. -/
theorem lookup_fieldTable : m.fieldTable.lookup name = m.fieldIndex? name := by
  have hnames : (m.fields.zipIdx.map fun field => (field.1.name, field.2)).map Prod.fst =
      m.fields.map (·.name) := by
    calc
      _ = (m.fields.zipIdx.map Prod.fst).map (·.name) := by rw [List.map_map, List.map_map]; rfl
      _ = m.fields.map (·.name) := by rw [List.zipIdx_map_fst]
  have hnodup : (m.fieldTable.map Prod.fst).Nodup := by
    rw [fieldTable_eq, List.map_reverse, hnames]
    exact List.nodup_reverse.2 h.nodup_names
  ext i
  rw [lookup_eq_some_iff_mem hnodup, h.fieldIndex?_eq_some_iff, fieldTable_eq, List.mem_reverse,
    List.mem_map]
  constructor
  · rintro ⟨⟨field, place⟩, hfield, heq⟩
    obtain ⟨hname, rfl⟩ := Prod.mk.inj heq
    obtain ⟨hplace, hget⟩ := List.mem_zipIdx' hfield
    exact ⟨hplace, hget ▸ hname⟩
  · rintro ⟨hi, rfl⟩
    exact ⟨(m.fields[i], i), List.mk_mem_zipIdx_iff_getElem?.2 (List.getElem?_eq_getElem hi), rfl⟩

/-! ### Names of functions -/

theorem getter_getElem (hi : i < m.fields.length) :
    m.fields[i].getter = m.functionStem ++ m.ending (.get i) := by
  obtain ⟨f, -, type, he⟩ := h.exists_getElem hi
  simp [ending, List.getElem?_eq_getElem hi, he, Field.modelOfType, functionStem, String.append_assoc]

theorem setter_getElem (hi : i < m.fields.length) :
    m.fields[i].setter =
      if m.direction = .input then some (m.functionStem ++ m.ending (.set i)) else none := by
  obtain ⟨f, -, type, he⟩ := h.exists_getElem hi
  simp [ending, List.getElem?_eq_getElem hi, he, Field.modelOfType, functionStem, String.append_assoc]

theorem operationName_eq :
    m.operationName op = if op ∈ m.operations then some (m.functionStem ++ m.ending op) else none := by
  cases op with
  | create =>
    cases hd : m.direction <;> simp [mem_operations_iff, operationName, isReadOnly, ending, hd]
  | retain => simp [mem_operations_iff, operationName, ending]
  | release => simp [mem_operations_iff, operationName, ending]
  | get i =>
    by_cases hi : i < m.fields.length
    · simp [mem_operations_iff, operationName, hi, h.getter_getElem hi]
    · simp [mem_operations_iff, operationName, hi]
  | set i =>
    by_cases hi : i < m.fields.length
    · simp [mem_operations_iff, operationName, hi, h.setter_getElem hi]
    · simp [mem_operations_iff, operationName, hi]

theorem isSome_operationName_iff : (m.operationName op).isSome ↔ op ∈ m.operations := by
  rw [h.operationName_eq]
  by_cases ho : op ∈ m.operations
  · simp [ho]
  · simp [ho]

theorem eq_of_snake_eq (hi : i < m.fields.length) (hj : j < m.fields.length)
    (he : Identifier.snake ((m.fields[i]?.map (·.name)).getD "") =
      Identifier.snake ((m.fields[j]?.map (·.name)).getD "")) : i = j := by
  rw [List.getElem?_eq_getElem hi, List.getElem?_eq_getElem hj] at he
  exact h.eq_of_sameWords hi hj (Identifier.snake_eq_iff.1 he)

theorem ending_injective {a b : Operation} (ha : a ∈ m.operations) (hb : b ∈ m.operations)
    (he : m.ending a = m.ending b) : a = b := by
  rw [mem_operations_iff] at ha hb
  cases a <;> cases b <;> simp only [ending, String.append_right_inj] at he
  case get.get i j => rw [h.eq_of_snake_eq ha hb he]
  case set.set i j => rw [h.eq_of_snake_eq ha.1 hb.1 he]
  -- the endings of different kinds of operations differ in their second characters
  all_goals simp [← String.toList_inj, String.toList_append] at he ⊢

theorem nodup_operationNames : (m.operations.map m.operationName).Nodup := by
  refine nodup_operations.map_on fun a ha b hb he => ?_
  rw [h.operationName_eq, h.operationName_eq, if_pos ha, if_pos hb, Option.some.injEq,
    String.append_right_inj] at he
  exact h.ending_injective ha hb he

end Built

/-- **The contract of a model.**  The model keeps the order, names, tags, formats and prerequisites of
the fields.  A name leads to the place of the one field that has it.  The constants are those of the
fields in order, and no two have one symbol.  The operations are those of the container followed by those
of each field; they are the ones with a function name, and no two have one function name. -/
theorem build_contract (h : build fullName direction fields = .ok m) :
    (m.fullName = fullName ∧ m.direction = direction ∧ m.hasFields = fields.isSome) ∧
    List.Forall₂ (fun f g => g.name = f.name ∧ g.tag = f.tag ∧ g.format = f.format ∧
        g.prerequisite = f.prerequisite ∧ g.symbol = Identifier.wireTagSymbol fullName f.name)
      (fields.getD []) m.fields ∧
    (∀ name i, m.fieldIndex? name = some i ↔
      ∃ hi : i < m.fields.length, m.fields[i].name = name) ∧
    (∀ i : ℕ, m.wireTags[i]? = m.fields[i]?.map fun g => (g.symbol, g.tag)) ∧
    (m.wireTags.map Prod.fst).Nodup ∧
    m.operations = (if direction = .input then [Operation.create] else []) ++
      [Operation.retain, Operation.release] ++
      (List.range m.fields.length).flatMap (fun i =>
        Operation.get i :: if direction = .input then [Operation.set i] else []) ∧
    (∀ op, (m.operationName op).isSome ↔ op ∈ m.operations) ∧
    (m.operations.map m.operationName).Nodup := by
  obtain ⟨hname, hdirection, hhas, hb⟩ := of_build h
  refine ⟨⟨hname, hdirection, hhas⟩, ?_, fun _ _ => hb.fieldIndex?_eq_some_iff, fun i => ?_, ?_, ?_,
    fun _ => hb.isSome_operationName_iff, hb.nodup_operationNames⟩
  · refine hb.models.imp fun f g hg => ?_
    obtain ⟨-, type, -, rfl⟩ := Field.model_eq_ok_iff.1 hg
    rw [← hname]
    exact ⟨rfl, rfl, rfl, rfl, rfl⟩
  · rw [wireTags, List.getElem?_map]
  · rw [wireTags, List.map_map]
    exact List.pairwise_map.2 hb.symbols
  · rw [← hdirection]
    rfl

/-- Two fields, of which the first one depends on the second one. -/
def dependentFields : List Field :=
  [⟨"Bar-2", ⟨16⟩, "string", some "Foo", [], none⟩, ⟨"Foo", ⟨1⟩, "guint8", none, [], none⟩]

theorem build_contract_dependentFields :
    ∃ m, build "Msg A Input" .input (some dependentFields) = .ok m ∧
      m.fields.map (·.name) = ["Bar-2", "Foo"] ∧ m.operations.length = 7 ∧
      (m.operations.map m.operationName).Nodup := by
  obtain ⟨m, hm⟩ : ∃ m, build "Msg A Input" .input (some dependentFields) = .ok m :=
    exists_eq_ok_of_isOk (by decide +kernel)
  obtain ⟨-, hkept, -, -, -, hops, -, hnodup⟩ := build_contract hm
  have hlen : m.fields.length = 2 := hkept.length_eq.symm
  refine ⟨m, hm, ?_, ?_, hnodup⟩
  · have hn : List.Forall₂ (fun f g => f.name = g.name) dependentFields m.fields :=
      hkept.imp fun _ _ hg => hg.1.symm
    have he := (List.forall₂_map_left_iff.2 (List.forall₂_map_right_iff.2 hn) :
      List.Forall₂ (· = ·) (dependentFields.map (·.name)) (m.fields.map (·.name)))
    exact (List.forall₂_eq_eq_eq ▸ he : dependentFields.map (·.name) = _).symm
  · rw [hops, hlen]
    rfl

end Model

end TlvSchema
