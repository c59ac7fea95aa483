import TlvSchema.Proofs.Accessors
import TlvSchema.Proofs.Agreement
import TlvSchema.Proofs.Spelling

/-!
# Names across the containers of a schema

A container has no two fields with one symbol, but nothing compares the symbols, or the type names, of
different containers.  Which of them are alike is a matter of the names in the schema: two full names
with the same words give one type name, and their fields give one symbol if the names of the fields have
the same words too.

* `nodup_symbols_iff`, `nodup_typeNames_iff` — when the symbols and type names of models are different
* `Session.names_of_success` — the names of all containers of a schema that compiles
* `Session.exists_collision` — a schema that compiles although its names collide
-/

namespace TlvSchema

open Identifier

/-! ### Models and their names -/

/-- The model of a container has its name, and is built from fields. -/
theorem ContainerSpec.built_of_compile {spec : ContainerSpec} {table : CommonTable} {m : Model}
    (h : (spec.compile table).run.value = .ok m) :
    m.fullName = spec.fullName ∧ ∃ fields, m.Built fields := by
  cases hf : spec.fields with
  | none =>
    rw [run_compile_of_none hf] at h
    cases h
    exact ⟨rfl, [], .nil, .nil⟩
  | some entries =>
    obtain ⟨-, -, hb⟩ := (compile_eq_ok_iff hf).1 h
    obtain ⟨hname, -, -, hbuilt⟩ := Model.of_build hb
    exact ⟨hname, _, hbuilt⟩

namespace Model

variable {m m' : Model} {fields fields' : List Field} {f : FieldModel}

theorem Built.symbol_eq (h : m.Built fields) (hf : f ∈ m.fields) :
    f.symbol = wireTagSymbol m.fullName f.name := by
  obtain ⟨i, hi, rfl⟩ := List.getElem_of_mem hf
  exact h.symbol_getElem hi

/-- Two containers have no symbol in common if and only if no fields of theirs meet. -/
theorem Built.disjoint_symbols_iff (h : m.Built fields) (h' : m'.Built fields') :
    (m.fields.map (·.symbol)).Disjoint (m'.fields.map (·.symbol)) ↔
      ∀ f ∈ m.fields, ∀ g ∈ m'.fields, ¬ Meet m.fullName f.name m'.fullName g.name := by
  have heq (f) (hf : f ∈ m.fields) (g) (hg : g ∈ m'.fields) :
      f.symbol = g.symbol ↔ Meet m.fullName f.name m'.fullName g.name := by
    rw [h.symbol_eq hf, h'.symbol_eq hg, wireTagSymbol_eq_wireTagSymbol_iff]
  constructor
  · intro hd f hf g hg hm
    refine hd (List.mem_map_of_mem hf) ?_
    rw [(heq f hf g hg).2 hm]
    exact List.mem_map_of_mem hg
  · intro hm symbol hs hs'
    obtain ⟨f, hf, rfl⟩ := List.mem_map.1 hs
    obtain ⟨g, hg, hgf⟩ := List.mem_map.1 hs'
    exact hm f hf g hg ((heq f hf g hg).1 hgf.symm)

end Model

/-! ### Models of all containers -/

/-- The models have the names of their containers, and are built from fields. -/
theorem built_of_forall₂ {table : CommonTable} {specs : List ContainerSpec} {models : List Model}
    (h : List.Forall₂ (fun spec m => (spec.compile table).run.value = .ok m) specs models) :
    models.map (·.fullName) = specs.map ContainerSpec.fullName ∧
      ∀ m ∈ models, ∃ fields, m.Built fields := by
  induction h with
  | nil => exact ⟨rfl, List.forall_mem_nil _⟩
  | cons hc _ ih =>
    obtain ⟨hname, hbuilt⟩ := ContainerSpec.built_of_compile hc
    rw [List.map_cons, List.map_cons, hname, ih.1]
    exact ⟨rfl, List.forall_mem_cons.2 ⟨hbuilt, ih.2⟩⟩

/-- **The symbols of all containers are different if and only if no two fields meet.** -/
theorem nodup_symbols_iff {models : List Model} (h : ∀ m ∈ models, ∃ fields, m.Built fields) :
    (models.flatMap fun m => m.fields.map (·.symbol)).Nodup ↔
      models.Pairwise fun m m' => ∀ f ∈ m.fields, ∀ g ∈ m'.fields,
        ¬ Meet m.fullName f.name m'.fullName g.name := by
  have hwithin : ∀ m ∈ models, (m.fields.map (·.symbol)).Nodup := by
    intro m hm
    obtain ⟨fields, hb⟩ := h m hm
    exact List.pairwise_map.2 hb.symbols
  rw [List.nodup_flatMap, and_iff_right hwithin]
  refine List.Pairwise.iff_of_mem fun {m m'} hm hm' => ?_
  obtain ⟨fields, hb⟩ := h m hm
  obtain ⟨fields', hb'⟩ := h m' hm'
  exact hb.disjoint_symbols_iff hb'

/-- **The type names of all containers are different if and only if their humps are.** -/
theorem nodup_typeNames_iff {models : List Model} :
    (models.map Model.typeName).Nodup ↔ (models.map fun m => humps m.fullName).Nodup := by
  rw [List.Nodup, List.pairwise_map, List.Nodup, List.pairwise_map]
  refine List.Pairwise.iff fun m m' => not_congr ?_
  exact camel_eq_iff

/-! ### Schemas that compile -/

namespace Session

variable {s : Session} {number : ℕ} {source : Source} {schema : Schema}

/-- If a compilation ends with success, all containers have models. -/
theorem exists_models_of_success (hs : s.sources[number]? = some source)
    (hload : (Schema.load source.text).run.value = .ok schema)
    (h : (s.recordOf (.compile number)).reply = .ended .success) :
    ∃ models, List.Forall₂ (fun spec m => (spec.compile schema.common).run.value = .ok m)
      schema.containers models := by
  have hschema : schemaOf s.sources[number]? = .ok schema := by
    rw [hs]
    exact (schemaOf_eq_ok_iff source).2 hload
  rw [recordOf, (step_of_outcome (outcome_compile hschema)).1, Reply.ended.injEq,
    concluded_success_iff, any_isError_of_outcome (outcome_compile hschema), Bool.or_eq_false_iff,
    Bool.not_eq_false', List.isEmpty_iff] at h
  refine exists_forall₂_iff.2 fun spec hspec => ?_
  exact (defect?_modelOf_eq_none_iff (n := number)).1 (List.filterMap_eq_nil_iff.1 h.1.2 spec hspec)

/-! ### Names of a source -/

/-- The full names, type names and symbols of the containers of a source, if they have models. -/
def namesOf (source : Source) : Option (List (Option (String × String × List String))) :=
  (Schema.load source.text).run.value.toOption.map fun schema => schema.containers.map fun spec =>
    (spec.compile schema.common).run.value.toOption.map fun m =>
      (m.fullName, m.typeName, m.fields.map (·.symbol))

/-- A new session with a source. -/
def sessionWith (source : Source) : Session := { empty with sources := [source] }

theorem toOption_eq_some_iff {ε α : Type} {x : Except ε α} {a : α} :
    x.toOption = some a ↔ x = .ok a := by
  cases x <;> simp [Except.toOption]

theorem exists_forall₂_of_map_toOption {ε α β γ : Type} {f : α → Except ε β} {g : β → γ}
    {as : List α} {cs : List γ} (h : as.map (fun a => (f a).toOption.map g) = cs.map some) :
    ∃ bs, List.Forall₂ (fun a b => f a = .ok b) as bs ∧ bs.map g = cs := by
  induction as generalizing cs with
  | nil => exact ⟨[], .nil, (List.map_eq_nil_iff.1 h.symm).symm⟩
  | cons a as ih =>
    cases cs with
    | nil => cases h
    | cons c cs =>
      obtain ⟨hc, hcs⟩ := List.cons.inj h
      obtain ⟨b, hb, rfl⟩ := Option.map_eq_some_iff.1 hc
      obtain ⟨bs, hbs, rfl⟩ := ih hcs
      exact ⟨b :: bs, .cons (toOption_eq_some_iff.1 hb) hbs, rfl⟩

/-- A source whose containers all have models compiles with success. -/
theorem exists_models_of_namesOf {names : List (String × String × List String)}
    (h : namesOf source = some (names.map some)) :
    ∃ schema models, (Schema.load source.text).run.value = .ok schema ∧
      ((sessionWith source).recordOf (.compile 0)).reply = .ended .success ∧
      List.Forall₂ (fun spec m => (spec.compile schema.common).run.value = .ok m)
        schema.containers models ∧
      schema.containers.map ContainerSpec.fullName = names.map (·.1) ∧
      models.map Model.typeName = names.map (·.2.1) ∧
      (models.flatMap fun m => m.fields.map (·.symbol)) = names.flatMap (·.2.2) := by
  obtain ⟨schema, hoption, hnames⟩ := Option.map_eq_some_iff.1 h
  have hload : (Schema.load source.text).run.value = .ok schema := toOption_eq_some_iff.1 hoption
  obtain ⟨models, hmodels, rfl⟩ := exists_forall₂_of_map_toOption hnames
  rw [List.map_map, List.map_map, List.flatMap_map]
  refine ⟨schema, models, hload, ?_, hmodels, (built_of_forall₂ hmodels).1.symm, rfl, rfl⟩
  have hschema : schemaOf (sessionWith source).sources[0]? = .ok schema :=
    (schemaOf_eq_ok_iff source).2 hload
  refine (success_iff_of_unlimited rfl (outcome_compile hschema)).2 ⟨rfl, ?_⟩
  refine List.filterMap_eq_nil_iff.2 fun spec hspec => ?_
  refine (defect?_modelOf_eq_none_iff (n := 0)).2 ?_
  exact exists_forall₂_iff.1 ⟨models, hmodels⟩ spec hspec

/-! ### Schemas whose names are told apart, or are not -/

/-- **The names of all containers of a schema that compiles.**  The symbols are different within each
container.  Those of all containers are different if and only if no fields of different containers
meet, and the type names are different if and only if the humps of the full names are.  So nothing
collides if the full names are told apart. -/
theorem names_of_success (hs : s.sources[number]? = some source)
    (hload : (Schema.load source.text).run.value = .ok schema)
    (hexit : ∃ status, (s.recordOf (.compile number)).reply = .ended status ∧ status.exitCode = 0) :
    ∃ models, List.Forall₂ (fun spec m => (spec.compile schema.common).run.value = .ok m)
        schema.containers models ∧
      let symbols := models.flatMap fun m => m.fields.map (·.symbol)
      let typeNames := models.map Model.typeName
      (∀ m ∈ models, (m.fields.map (·.symbol)).Nodup) ∧
      (symbols.Nodup ↔ models.Pairwise fun m m' => ∀ f ∈ m.fields, ∀ g ∈ m'.fields,
        ¬ Meet m.fullName f.name m'.fullName g.name) ∧
      (typeNames.Nodup ↔ (schema.containers.map fun spec => humps spec.fullName).Nodup) ∧
      (schema.containers.Pairwise (fun spec spec' => Apart spec.fullName spec'.fullName) →
        symbols.Nodup ∧ typeNames.Nodup) := by
  obtain ⟨status, hreply, hcode⟩ := hexit
  obtain rfl := exitCode_eq_zero_iff.1 hcode
  obtain ⟨models, hmodels⟩ := exists_models_of_success hs hload hreply
  obtain ⟨hnames, hbuilt⟩ := built_of_forall₂ hmodels
  have htypes : (models.map Model.typeName).Nodup ↔
      (schema.containers.map fun spec => humps spec.fullName).Nodup := by
    have hmap := congrArg (List.map humps) hnames
    rw [List.map_map, List.map_map] at hmap
    rw [nodup_typeNames_iff]
    exact iff_of_eq (congrArg List.Nodup hmap)
  refine ⟨models, hmodels, fun m hm => ?_, nodup_symbols_iff hbuilt, htypes, fun hapart => ⟨?_, ?_⟩⟩
  · obtain ⟨fields, hb⟩ := hbuilt m hm
    exact List.pairwise_map.2 hb.symbols
  · have hapart' : (models.map (·.fullName)).Pairwise Apart := by
      rw [hnames]
      exact List.pairwise_map.2 hapart
    refine (nodup_symbols_iff hbuilt).2 ?_
    exact (List.pairwise_map.1 hapart').imp fun h f _ g _ => h.not_meet
  · exact htypes.2 (List.pairwise_map.2 (hapart.imp fun h => h.humps_ne))

/-- A message and an indication of one name, with a field of one name. -/
def apartSource : Source :=
  ⟨"a", "[\x7b\"type\":\"Message\",\"name\":\"A\",\"input\":[]," ++
    "\"output\":[\x7b\"name\":\"Foo\",\"id\":1,\"format\":\"guint8\"\x7d]\x7d," ++
    "\x7b\"type\":\"Indication\",\"name\":\"A\",\"output\":[" ++
    "\x7b\"name\":\"Foo\",\"id\":1,\"format\":\"guint8\"\x7d]\x7d]"⟩

theorem names_of_success_apartSource :
    ∃ schema models, (Schema.load apartSource.text).run.value = .ok schema ∧
      List.Forall₂ (fun spec m => (spec.compile schema.common).run.value = .ok m)
        schema.containers models ∧
      (models.flatMap fun m => m.fields.map (·.symbol)).Nodup ∧
      (models.map Model.typeName).Nodup := by
  have hnames : namesOf apartSource = some
      ([("Message A Input", "MessageAInput", []),
        ("Message A Output", "MessageAOutput", ["MESSAGE_A_OUTPUT_TLV_FOO"]),
        ("Indication A Output", "IndicationAOutput", ["INDICATION_A_OUTPUT_TLV_FOO"])].map
          some) := by decide +kernel
  obtain ⟨schema, -, hload, hreply, -, hfull, -⟩ := exists_models_of_namesOf hnames
  have hapart : (schema.containers.map ContainerSpec.fullName).Pairwise Apart := by
    rw [hfull]
    decide +kernel
  obtain ⟨models, hmodels, -, -, -, hdistinct⟩ :=
    @names_of_success (sessionWith apartSource) 0 apartSource schema rfl hload
      ⟨.success, hreply, rfl⟩
  exact ⟨schema, models, hload, hmodels, hdistinct (List.pairwise_map.1 hapart)⟩

/-- Two indications whose names have the same words, with a field of one name. -/
def alikeSource : Source :=
  ⟨"a", "[\x7b\"type\":\"Indication\",\"name\":\"A B\",\"output\":[" ++
    "\x7b\"name\":\"Foo\",\"id\":1,\"format\":\"guint8\"\x7d]\x7d," ++
    "\x7b\"type\":\"Indication\",\"name\":\"A-B\",\"output\":[" ++
    "\x7b\"name\":\"Foo\",\"id\":1,\"format\":\"guint8\"\x7d]\x7d]"⟩

/-- The full names of the containers are different and the compilation ends with success, but the symbols
collide, and so do the type names. -/
theorem exists_collision :
    ∃ schema models, (Schema.load alikeSource.text).run.value = .ok schema ∧
      (schema.containers.map ContainerSpec.fullName).Nodup ∧
      (∃ status, ((sessionWith alikeSource).recordOf (.compile 0)).reply = .ended status ∧
        status.exitCode = 0) ∧
      List.Forall₂ (fun spec m => (spec.compile schema.common).run.value = .ok m)
        schema.containers models ∧
      ¬ (models.flatMap fun m => m.fields.map (·.symbol)).Nodup ∧
      ¬ (models.map Model.typeName).Nodup := by
  have hnames : namesOf alikeSource = some
      ([("Indication A B Output", "IndicationABOutput", ["INDICATION_A_B_OUTPUT_TLV_FOO"]),
        ("Indication A-B Output", "IndicationABOutput", ["INDICATION_A_B_OUTPUT_TLV_FOO"])].map
          some) := by decide +kernel
  obtain ⟨schema, models, hload, hreply, hmodels, hfull, htypes, hsymbols⟩ :=
    exists_models_of_namesOf hnames
  refine ⟨schema, models, hload, ?_, ⟨.success, hreply, rfl⟩, hmodels, ?_, ?_⟩
  · rw [hfull]
    decide
  · rw [hsymbols]
    decide
  · rw [htypes]
    decide

end Session

end TlvSchema
