import TlvSchema.Proofs.Model
import TlvSchema.Proofs.ShapeDefect

/-!
# Which defect of a model is reported

When the model of a container is built, the fields are first taken one by one, and their symbols are
compared only if every field is in order by itself.  The first field that is not in order is reported, by
the first flaw of its shape, or else because its name has no words.

* `Field.InOrder` — nothing is wrong with a field by itself
* `BuildReported` — what is reported of the fields of a container
* `build_eq_error_iff` — a model cannot be built because of what is reported of its fields
* `build_report` — what is reported names the container, and without a list of fields it is nothing
-/

namespace TlvSchema

/-! ### Single fields -/

namespace Field

/-- The name of the constant for the tag of the field. -/
def symbol (container : String) (f : Field) : String := Identifier.wireTagSymbol container f.name

/-- Nothing is wrong with the field by itself. -/
structure InOrder (f : Field) : Prop where
  /-- Identifiers can be made of the name. -/
  named : Identifier.hasWords f.name = true
  /-- The format tree is well formed. -/
  shaped : f.shape.WellFormed

variable {container : String} {direction : Direction} {f : Field} {d : SchemaError}

theorem exists_model_iff_inOrder : (∃ g, f.model container direction = .ok g) ↔ f.InOrder := by
  rw [exists_model_iff]
  exact ⟨fun h => ⟨h.1, h.2⟩, fun h => ⟨h.named, h.shaped⟩⟩

theorem model_eq_error_iff : f.model container direction = .error d ↔
    Member.FirstFlaw container (f.shape.nodes f.name) d ∨
      f.shape.WellFormed ∧ Identifier.hasWords f.name = false ∧ .invalidName container f.name = d := by
  unfold model
  rw [bind_eq_error_iff, Member.type?_eq_error_iff, ← Member.exists_type?_iff container f.name]
  by_cases hw : Identifier.hasWords f.name = true
  · simp [hw, pure, Except.pure]
  · simp [hw]

end Field

/-! ### Symbols -/

namespace Model

variable {container : String} {direction : Direction} {earlier fields : List Field}
  {gs : List FieldModel} {d : SchemaError}

/-- What is reported of the symbols of fields that come after others. -/
theorem collision?_map_eq_some_iff {model : Field → FieldModel} (hname : ∀ f, (model f).name = f.name)
    (hsymbol : ∀ f, (model f).symbol = f.symbol container)
    (h : (earlier.map (·.symbol container)).Nodup) :
    collision? container (earlier.map model) (fields.map model) = some d ↔
      ∃ before f, before ++ [f] <+: fields ∧ ((earlier ++ before).map (·.symbol container)).Nodup ∧
        ∃ first, (earlier ++ before).filter (·.symbol container = f.symbol container) = [first] ∧
          .symbolCollision container first.name f.name (f.symbol container) = d := by
  induction fields generalizing earlier with
  | nil => simp [collision?]
  | cons f fs ih =>
    have hfind : (earlier.map model).find? (·.symbol = (model f).symbol) =
        (earlier.find? (·.symbol container = f.symbol container)).map model := by
      rw [List.find?_map]
      simp only [Function.comp_def, hsymbol]
    rw [List.map_cons, collision?, hfind, exists_first_cons_iff]
    simp only [List.append_nil, h, true_and, filter_key_eq_singleton_iff h]
    cases hf : earlier.find? (·.symbol container = f.symbol container) with
    | some first =>
      have hm : first ∈ earlier := List.mem_of_find?_eq_some hf
      have he : first.symbol container = f.symbol container := by simpa using List.find?_some hf
      -- what is scanned later begins with two fields of one symbol
      have hno (before : List Field) :
          ¬ ((earlier ++ f :: before).map (·.symbol container)).Nodup := by
        rw [List.map_append, List.nodup_append]
        exact fun hn => hn.2.2 _ (List.mem_map_of_mem hm) _ (by simp) he
      simp only [hno, false_and, and_false, exists_false, or_false]
      simp [hname, hsymbol]
    | none =>
      have hne : ∀ g ∈ earlier, g.symbol container ≠ f.symbol container := by simpa using hf
      have h' : ((earlier ++ [f]).map (·.symbol container)).Nodup := by
        rw [List.map_append, List.nodup_append]
        exact ⟨h, by simp, by simpa using hne⟩
      have ih' := ih h'
      simp only [List.map_append, List.map_cons, List.map_nil, List.append_assoc,
        List.singleton_append] at ih'
      simp [ih']

/-- The models of fields are got from the fields by one function that keeps names and symbols. -/
theorem exists_eq_map
    (h : List.Forall₂ (fun f g => f.model container direction = .ok g) fields gs) :
    ∃ model : Field → FieldModel, gs = fields.map model ∧ (∀ f, (model f).name = f.name) ∧
      ∀ f, (model f).symbol = f.symbol container := by
  let typeOf (f : Field) : FieldType := ((f.shape.type? container f.name).toOption).getD .string
  refine ⟨fun f => f.modelOfType container direction (typeOf f), ?_, fun _ => rfl, fun _ => rfl⟩
  induction h with
  | nil => rfl
  | @cons f g _ _ hg _ ih =>
    obtain ⟨-, type, ht, rfl⟩ := Field.model_eq_ok_iff.1 hg
    have htype : typeOf f = type := by simp [typeOf, ht, Except.toOption]
    rw [List.map_cons, ← ih, htype]

/-- The first of the fields with the symbol of an earlier one, which is the only one with it, is
reported. -/
def FirstCollision (container : String) (fields : List Field) (d : SchemaError) : Prop :=
  ∃ before f, before ++ [f] <+: fields ∧ (before.map (·.symbol container)).Nodup ∧
    ∃ first, before.filter (·.symbol container = f.symbol container) = [first] ∧
      .symbolCollision container first.name f.name (f.symbol container) = d

theorem collision?_eq_some_iff
    (h : List.Forall₂ (fun f g => f.model container direction = .ok g) fields gs) :
    collision? container [] gs = some d ↔ FirstCollision container fields d := by
  obtain ⟨model, rfl, hname, hsymbol⟩ := exists_eq_map h
  have hnil : (([] : List Field).map (·.symbol container)).Nodup := List.nodup_nil
  exact collision?_map_eq_some_iff hname hsymbol hnil

/-! ### Lists of fields -/

theorem fieldModels_eq_error_iff : fieldModels container direction fields = .error d ↔
    fields.mapM (·.model container direction) = .error d ∨
      ∃ gs, fields.mapM (·.model container direction) = .ok gs ∧
        collision? container [] gs = some d := by
  rw [fieldModels, bind_eq_error_iff]
  refine or_congr_right (exists_congr fun gs => and_congr_right fun _ => ?_)
  cases collision? container [] gs <;> simp [pure, Except.pure]

theorem forall_inOrder_iff : (∀ f ∈ fields, f.InOrder) ↔
    ∃ gs, List.Forall₂ (fun f g => f.model container direction = .ok g) fields gs := by
  rw [exists_forall₂_iff]
  simp only [Field.exists_model_iff_inOrder]

/-- The fields are taken one by one before their symbols are compared. -/
theorem build_eq_error_iff_or : build container direction (some fields) = .error d ↔
    (∃ before f, before ++ [f] <+: fields ∧ (∀ g ∈ before, g.InOrder) ∧
      f.model container direction = .error d) ∨
    (∀ f ∈ fields, f.InOrder) ∧ FirstCollision container fields d := by
  have hmodels : build container direction (some fields) = .error d ↔
      fieldModels container direction fields = .error d := by
    simp [build, bind_eq_error_iff, pure, Except.pure]
  rw [hmodels, fieldModels_eq_error_iff, mapM_eq_error_iff]
  simp only [Field.exists_model_iff_inOrder, mapM_eq_ok_iff]
  refine or_congr_right ?_
  rw [@forall_inOrder_iff container direction]
  constructor
  · rintro ⟨gs, hgs, hc⟩
    exact ⟨⟨gs, hgs⟩, (collision?_eq_some_iff hgs).1 hc⟩
  · rintro ⟨⟨gs, hgs⟩, hc⟩
    exact ⟨gs, hgs, (collision?_eq_some_iff hgs).2 hc⟩

/-! ### Reports -/

/-- What is reported of the fields of a container: the first one that is not in order by itself, and if
there is none, the first one with the symbol of an earlier field. -/
inductive BuildReported (container : String) (fields : List Field) : SchemaError → Prop
  /-- The shape of the first field that is not in order has a first node with a flaw. -/
  | shape {before : List Field} {f : Field} {seen : List (String × Member)} {path : String}
      {node : Member} {d : SchemaError} :
    before ++ [f] <+: fields → (∀ g ∈ before, g.InOrder) →
      seen ++ [(path, node)] <+: f.shape.nodes f.name → (∀ n ∈ seen, n.2.Sound) →
        node.Flaw container path d → BuildReported container fields d
  /-- The shape of the first field that is not in order is well formed, but its name has no words. -/
  | invalidName {before : List Field} {f : Field} :
    before ++ [f] <+: fields → (∀ g ∈ before, g.InOrder) →
      f.shape.WellFormed → Identifier.hasWords f.name = false →
        BuildReported container fields (.invalidName container f.name)
  /-- All fields are in order, and this is the first one with the symbol of an earlier field, which is
  the only one with it. -/
  | symbolCollision {before : List Field} {f first : Field} :
    (∀ g ∈ fields, g.InOrder) → before ++ [f] <+: fields →
      (before.map (·.symbol container)).Nodup →
        before.filter (·.symbol container = f.symbol container) = [first] →
          BuildReported container fields
            (.symbolCollision container first.name f.name (f.symbol container))

/-- **A model cannot be built because of what is reported of its fields.** -/
theorem build_eq_error_iff :
    build container direction (some fields) = .error d ↔ BuildReported container fields d := by
  rw [build_eq_error_iff_or]
  simp only [Field.model_eq_error_iff]
  constructor
  · rintro (⟨before, f, hp, hbefore, ⟨seen, n, hseen, hs, hn⟩ | ⟨hshape, hw, rfl⟩⟩ |
      ⟨hall, before, f, hp, hbefore, first, hfirst, rfl⟩)
    · exact .shape hp hbefore hseen hs hn
    · exact .invalidName hp hbefore hshape hw
    · exact .symbolCollision hall hp hbefore hfirst
  · intro h
    cases h with
    | shape hp hbefore hseen hs hn => exact .inl ⟨_, _, hp, hbefore, .inl ⟨_, _, hseen, hs, hn⟩⟩
    | invalidName hp hbefore hshape hw => exact .inl ⟨_, _, hp, hbefore, .inr ⟨hshape, hw, rfl⟩⟩
    | symbolCollision hall hp hbefore hfirst =>
      exact .inr ⟨hall, _, _, hp, hbefore, _, hfirst, rfl⟩

theorem BuildReported.container_eq (h : BuildReported container fields d) :
    d.container = container := by
  cases h with
  | shape _ _ _ _ hn => cases hn <;> rfl
  | invalidName | symbolCollision => rfl

/-- **The report of a build.**  The model of a container cannot be built because of exactly the defect
that is reported of its fields, which names the container.  Without a list of fields nothing is
reported. -/
theorem build_report (fullName : String) (direction : Direction) (fields : Option (List Field)) :
    (∀ d, build fullName direction fields = .error d ↔
      ∃ fs, fields = some fs ∧ BuildReported fullName fs d) ∧
    ∀ fs d, BuildReported fullName fs d → d.container = fullName := by
  refine ⟨fun d => ?_, fun fs d => BuildReported.container_eq⟩
  cases fields with
  | none => simp [build]
  | some fs => simp [build_eq_error_iff]

/-- The second field is an array of structs with a member in which a format is unknown, and the third one
has a name without words.  What the first field has as contents is not looked at. -/
def flawedFields : List Field :=
  [⟨"Foo", ⟨1⟩, "guint8", none, [⟨"", "guint12", [], none⟩], none⟩,
    ⟨"List", ⟨2⟩, "array", none, [], some ⟨"", "struct",
      [⟨"Id", "guint32", [], none⟩, ⟨"Info", "sequence", [⟨"Kind", "guint12", [], none⟩], none⟩],
      none⟩⟩,
    ⟨"--", ⟨3⟩, "guint8", none, [], none⟩]

theorem build_report_flawedFields :
    build "Msg A Input" .input (some flawedFields) =
      .error (.unknownFormat "Msg A Input" "List[].Info.Kind" "guint12") := by
  obtain ⟨herror, -⟩ := build_report "Msg A Input" .input (some flawedFields)
  have hbefore : ∀ f ∈ flawedFields.take 1, f.InOrder := by
    intro f hf
    obtain rfl := List.mem_singleton.1 hf
    exact ⟨by decide, .plain (by decide)⟩
  let nodes := flawedFields[1].shape.nodes "List"
  have hseen : ∀ n ∈ nodes.take 4, n.2.Sound := by
    intro n hn
    change n ∈ [_, _, _, _] at hn
    simp only [List.mem_cons, List.not_mem_nil, or_false] at hn
    rcases hn with rfl | rfl | rfl | rfl <;> exact ⟨by decide, by decide, by decide⟩
  exact (herror _).2 ⟨_, rfl, .shape (List.take_prefix 2 flawedFields) hbefore
    (List.take_prefix 5 nodes) hseen (.unknownFormat (by decide))⟩

end Model

end TlvSchema
