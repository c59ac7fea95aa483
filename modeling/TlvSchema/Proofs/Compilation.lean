import TlvSchema.Compilation
import TlvSchema.Proofs.DeclarationOrder
import TlvSchema.Proofs.Model
import TlvSchema.Proofs.Resolution

/-!
# Containers that compile, and the order of their fields

A container compiles if and only if each of its entries is complete and the fields of the entries
are `Acceptable`.  Neither condition depends on the order of the entries, and two orders of the same
entries have models that differ in the order of their fields only (`exists_compile_iff`).

The model lists the fields in the order of declarations.  A prerequisite comes before the fields
that depend on it except in a chain that was written the other way round, and every chain is reported
(`compile_order`).
-/

namespace TlvSchema

variable {spec : ContainerSpec} {table : CommonTable} {entries : List FieldEntry} {m : Model}

/-! ### The steps of a compilation -/

namespace ContainerSpec

theorem run_compile_of_none (h : spec.fields = none) :
    (spec.compile table).run =
      ⟨.ok ⟨spec.fullName, spec.direction, none⟩,
        [.event (.builtModel 0
          (Model.lifecycle ⟨spec.fullName, spec.direction, none⟩).length)]⟩ := by
  unfold compile orderedFields
  rw [h]
  simp [ExceptT.run_bind, Logged.ext_iff, Model.build, Model.fields, Model.operations, Except.map]

theorem run_compile_of_some (h : spec.fields = some entries) :
    (spec.compile table).run =
      match resolveFields spec.fullName entries table with
      | .error e => ⟨.error e, []⟩
      | .ok fields =>
        match Model.build spec.fullName spec.direction (some (declarationOrder fields)) with
        | .error e => ⟨.error e, (.resolved fields.length :: chains fields).map .event⟩
        | .ok m => ⟨.ok m, (.resolved fields.length :: (chains fields ++
            [.builtModel m.fields.length m.operations.length])).map .event⟩ := by
  unfold compile orderedFields
  rw [h]
  dsimp only
  cases resolveFields spec.fullName entries table with
  | error e => rfl
  | ok fields =>
    dsimp only
    cases hb : Model.build spec.fullName spec.direction (some (declarationOrder fields)) <;>
      simp [ExceptT.run_bind, orderFields, hb, Logged.ext_iff, Except.map]

theorem compile_eq_ok_iff (h : spec.fields = some entries) :
    (spec.compile table).run.value = .ok m ↔
      (∀ e ∈ entries, e.Complete table) ∧ Consistent (fieldsOf table entries) ∧
        Model.build spec.fullName spec.direction
          (some (declarationOrder (fieldsOf table entries))) = .ok m := by
  have hv : (spec.compile table).run.value = .ok m ↔ ∃ fields,
      resolveFields spec.fullName entries table = .ok fields ∧
        Model.build spec.fullName spec.direction (some (declarationOrder fields)) = .ok m := by
    rw [run_compile_of_some h]
    cases resolveFields spec.fullName entries table with
    | error e => simp
    | ok fields =>
      dsimp only
      cases hb : Model.build spec.fullName spec.direction (some (declarationOrder fields)) <;>
        simp [hb]
  simp only [hv, resolveFields_eq_ok_iff]
  constructor
  · rintro ⟨_, ⟨he, rfl, hc⟩, hb⟩
    exact ⟨he, hc, hb⟩
  · rintro ⟨he, hc, hb⟩
    exact ⟨_, ⟨he, rfl, hc⟩, hb⟩

/-! ### Acceptance -/

end ContainerSpec

/-- What the fields of a container must be like, in any order, for the container to compile. -/
structure Acceptable (fields : List Field) : Prop where
  /-- Every name has a letter or digit. -/
  named : ∀ f ∈ fields, ∃ c ∈ f.name.toList, c.isAlphanum = true
  /-- No two names have the same words. -/
  words : fields.Pairwise fun f g => ¬ Identifier.SameWords f.name g.name
  /-- The tags are pairwise different. -/
  tags : fields.Pairwise fun f g => f.tag ≠ g.tag
  /-- Every prerequisite is the name of another field. -/
  prerequisites : ∀ f ∈ fields, ∀ p, f.prerequisite = some p → ∃ g ∈ fields, g.name = p ∧ g ≠ f
  /-- The shapes of the values are well formed. -/
  shapes : ∀ f ∈ fields, f.shape.WellFormed

theorem Acceptable.perm {fields fields' : List Field} (h : Acceptable fields)
    (hp : fields.Perm fields') : Acceptable fields' where
  named f hf := h.named f (hp.mem_iff.2 hf)
  words := hp.pairwise h.words fun hw hs => hw hs.symm
  tags := hp.pairwise h.tags Ne.symm
  prerequisites f hf p hr := by
    obtain ⟨g, hg, hn⟩ := h.prerequisites f (hp.mem_iff.2 hf) p hr
    exact ⟨g, hp.mem_iff.1 hg, hn⟩
  shapes f hf := h.shapes f (hp.mem_iff.2 hf)

theorem Acceptable.nodup_names {fields : List Field} (h : Acceptable fields) :
    (fields.map (·.name)).Nodup :=
  List.pairwise_map.2 (h.words.imp fun hw he => hw (.of_eq he))

theorem acceptable_iff {fields : List Field} :
    Acceptable fields ↔ Consistent fields ∧
      (∀ f ∈ fields, Identifier.hasWords f.name = true ∧ f.shape.WellFormed) ∧
        fields.Pairwise fun f g => ¬ Identifier.SameWords f.name g.name := by
  constructor
  · intro h
    have hw : ∀ f ∈ fields, Identifier.hasWords f.name = true := fun f hf =>
      Identifier.hasWords_iff.2 (h.named f hf)
    refine ⟨⟨hw, ?_, fun f hf p hp => ?_⟩, fun f hf => ⟨hw f hf, h.shapes f hf⟩, h.words⟩
    · exact (List.pairwise_map.1 h.nodup_names).and h.tags
    · obtain ⟨g, hg, rfl, hne⟩ := h.prerequisites f hf p hp
      exact ⟨fun he => hne (eq_of_name_eq h.nodup_names hg hf he), g, hg, rfl⟩
  · rintro ⟨⟨hn, hd, hp⟩, hs, hw⟩
    refine ⟨fun f hf => Identifier.hasWords_iff.1 (hn f hf), hw, hd.imp fun h => h.2, ?_,
      fun f hf => (hs f hf).2⟩
    intro f hf p hr
    obtain ⟨hne, g, hg, rfl⟩ := hp f hf p hr
    exact ⟨g, hg, rfl, fun he => hne (congrArg Field.name he)⟩

theorem ContainerSpec.exists_compile_of_some (h : spec.fields = some entries) :
    (∃ m, (spec.compile table).run.value = .ok m) ↔
      (∀ e ∈ entries, e.Complete table) ∧ Acceptable (fieldsOf table entries) := by
  have hp : (declarationOrder (fieldsOf table entries)).Perm (fieldsOf table entries) :=
    declarationOrder_perm
  have hw : ((declarationOrder (fieldsOf table entries)).Pairwise fun f g =>
        ¬ Identifier.SameWords f.name g.name) ↔
      (fieldsOf table entries).Pairwise fun f g => ¬ Identifier.SameWords f.name g.name :=
    hp.pairwise_iff fun hfg hs => hfg hs.symm
  simp only [compile_eq_ok_iff h, exists_and_left, Model.exists_build_iff, acceptable_iff,
    hp.mem_iff, hw]

/-- The models are those of one container with its fields in two orders. -/
structure Model.Reordered (m m' : Model) : Prop where
  /-- The containers have one name. -/
  fullName : m.fullName = m'.fullName
  /-- They have one direction. -/
  direction : m.direction = m'.direction
  /-- Both have a list of fields or neither has. -/
  hasFields : m.hasFields = m'.hasFields
  /-- The fields are the same but for their order. -/
  fields : m.fields.Perm m'.fields
  /-- Every name stands for the same field. -/
  field? : ∀ name, m.field? name = m'.field? name
  /-- The constants for the tags are the same but for their order. -/
  wireTags : m.wireTags.Perm m'.wireTags
  /-- The operations are the same. -/
  operations : m.operations = m'.operations

theorem Model.build_reordered {container : String} {direction : Direction}
    {fields fields' : List Field} {m m' : Model} (hn : (fields.map (·.name)).Nodup)
    (hp : fields.Perm fields') (h : build container direction (some fields) = .ok m)
    (h' : build container direction (some fields') = .ok m') : m.Reordered m' := by
  obtain ⟨gs, hg, -, rfl⟩ := build_eq_ok_iff.1 h
  obtain ⟨gs', hg', -, rfl⟩ := build_eq_ok_iff.1 h'
  have hgs : gs.Perm gs' := perm_of_forall₂ hp hg hg'
  have hk : (gs.map (·.name)).Nodup := by rwa [map_eq_map (fun _ _ => rfl) hg]
  have hk' : (gs'.map (·.name)).Nodup := (hgs.map _).nodup_iff.1 hk
  refine ⟨rfl, rfl, rfl, hgs, fun name => Option.ext fun g => ?_, hgs.map _, ?_⟩
  · change gs.find? (·.name = name) = some g ↔ gs'.find? (·.name = name) = some g
    rw [find?_key_eq_some_iff hk, find?_key_eq_some_iff hk', hgs.mem_iff]
  · simp only [operations, Model.fields, Option.getD_some, hgs.length_eq]
    rfl

/-- **A container compiles if and only if each of its entries is complete and their fields are
acceptable.**  Hence entries in another order compile as well, and their models differ in the order
of the fields only. -/
theorem exists_compile_iff (message : String) (direction : Direction) (entries : List FieldEntry)
    (table : CommonTable) :
    ((∃ m, (ContainerSpec.compile ⟨message, direction, some entries⟩ table).run.value = .ok m) ↔
        (∀ e ∈ entries, e.Complete table) ∧ Acceptable (fieldsOf table entries)) ∧
      ∀ entries', entries.Perm entries' → ∀ m,
        (ContainerSpec.compile ⟨message, direction, some entries⟩ table).run.value = .ok m →
        ∃ m', (ContainerSpec.compile ⟨message, direction, some entries'⟩ table).run.value = .ok m' ∧
          m.Reordered m' := by
  refine ⟨ContainerSpec.exists_compile_of_some rfl, fun entries' hp m hm => ?_⟩
  obtain ⟨he, ha⟩ := (ContainerSpec.exists_compile_of_some rfl).1 ⟨m, hm⟩
  have hf : (fieldsOf table entries).Perm (fieldsOf table entries') := hp.filterMap _
  obtain ⟨m', hm'⟩ : ∃ m', (ContainerSpec.compile ⟨message, direction, some entries'⟩
      table).run.value = .ok m' :=
    (ContainerSpec.exists_compile_of_some rfl).2 ⟨fun e h => he e (hp.mem_iff.2 h), ha.perm hf⟩
  refine ⟨m', hm', ?_⟩
  have hd : (declarationOrder (fieldsOf table entries)).Perm
      (declarationOrder (fieldsOf table entries')) :=
    declarationOrder_perm.trans (hf.trans declarationOrder_perm.symm)
  have hn : ((declarationOrder (fieldsOf table entries)).map (·.name)).Nodup :=
    (declarationOrder_perm.map _).nodup_iff.2 ha.nodup_names
  exact Model.build_reordered hn hd ((ContainerSpec.compile_eq_ok_iff rfl).1 hm).2.2
    ((ContainerSpec.compile_eq_ok_iff rfl).1 hm').2.2

/-- A list of names that depends on a result, which is a common definition. -/
def resultEntries : List FieldEntry :=
  [⟨"Names", some ⟨16⟩, some "array", none, some "Result", [], some ⟨"", "string", [], none⟩⟩,
    ⟨"", none, none, some "Operation Result", none, [], none⟩]

/-- The definition of the result. -/
def resultTable : CommonTable :=
  .ofList [("Operation Result", ⟨"Result", ⟨2⟩, "struct", none,
    [⟨"Error Status", "guint16", [], none⟩], none⟩)]

theorem exists_compile_reverse :
    ∃ m m',
      (ContainerSpec.compile ⟨"Msg A", .output, some resultEntries⟩ resultTable).run.value = .ok m ∧
      (ContainerSpec.compile ⟨"Msg A", .output, some resultEntries.reverse⟩
        resultTable).run.value = .ok m' ∧ m.Reordered m' := by
  obtain ⟨m, hm⟩ : ∃ m, (ContainerSpec.compile ⟨"Msg A", .output, some resultEntries⟩
      resultTable).run.value = .ok m :=
    exists_eq_ok_of_isOk (by decide +kernel)
  obtain ⟨m', hm', hr⟩ := (exists_compile_iff "Msg A" .output resultEntries resultTable).2
    resultEntries.reverse (List.reverse_perm _).symm m hm
  exact ⟨m, m', hm, hm', hr⟩

/-! ### Order -/

/-- The event reports a chain of prerequisites. -/
def Event.isChain : Event → Bool
  | .chain _ _ _ => true
  | _ => false

/-- The fields of a container as they were written. -/
def ContainerSpec.authored (spec : ContainerSpec) (table : CommonTable) : List Field :=
  fieldsOf table (spec.fields.getD [])

theorem filter_isChain_chains (fields : List Field) :
    (chains fields).filter Event.isChain = chains fields := by
  refine List.filter_eq_self.2 fun e he => ?_
  obtain ⟨_, -, h⟩ := List.mem_filterMap.1 he
  obtain ⟨_, -, rfl⟩ := Option.map_eq_some_iff.1 h
  rfl

/-- What a compilation that succeeds has done: the entries have been resolved to fields that fit
together, the model lists their models in the order of declarations, and the chains have been
reported. -/
theorem ContainerSpec.of_compile (h : (spec.compile table).run.value = .ok m) :
    (∀ entries, spec.fields = some entries →
        resolveFields spec.fullName entries table = .ok (spec.authored table)) ∧
      Consistent (spec.authored table) ∧
      List.Forall₂ (fun f g => f.model spec.fullName spec.direction = .ok g)
        (declarationOrder (spec.authored table)) m.fields ∧
      (spec.compile table).run.events.filter Event.isChain = chains (spec.authored table) := by
  cases hf : spec.fields with
  | none =>
    have ha : spec.authored table = [] := by simp [authored, hf, fieldsOf]
    rw [run_compile_of_none hf] at h ⊢
    cases h
    rw [ha]
    exact ⟨by simp, ⟨by simp, .nil, by simp⟩, .nil, rfl⟩
  | some entries =>
    have ha : spec.authored table = fieldsOf table entries := by simp [authored, hf]
    obtain ⟨he, hc, hb⟩ := (compile_eq_ok_iff hf).1 h
    have hr : resolveFields spec.fullName entries table = .ok (fieldsOf table entries) :=
      resolveFields_eq_ok_iff.2 ⟨he, rfl, hc⟩
    have hevents : (spec.compile table).run.events.filter Event.isChain =
        chains (fieldsOf table entries) := by
      rw [run_compile_of_some hf, hr]
      dsimp only
      rw [hb]
      dsimp only
      rw [Logged.events_mk_map]
      simp [Event.isChain, filter_isChain_chains]
    obtain ⟨gs, hg, -, rfl⟩ := Model.build_eq_ok_iff.1 hb
    rw [ha]
    exact ⟨fun es hes => Option.some.inj hes ▸ hr, hc, hg, hevents⟩

theorem Consistent.nodup_names {fields : List Field} (h : Consistent fields) :
    (fields.map (·.name)).Nodup :=
  List.pairwise_map.2 (h.distinct.imp fun hd => hd.1)

/-- **The order of the fields.**  The model lists the fields without a prerequisite first, the last
one written foremost, and then the others as they were written.  So a prerequisite comes before a
field that depends on it if and only if it has no prerequisite itself or was written before the
field.  One chain is reported for each field whose prerequisite has one, and if there is none, every
prerequisite comes before the fields that depend on it. -/
theorem compile_order (h : (spec.compile table).run.value = .ok m) :
    let authored := spec.authored table
    let ordered := (authored.filter (·.prerequisite.isNone)).reverse ++
      authored.filter (·.prerequisite.isSome)
    let names := m.fields.map (·.name)
    let reported := (spec.compile table).run.events.filter Event.isChain
    (∀ entries, spec.fields = some entries →
        resolveFields spec.fullName entries table = .ok authored) ∧
      (ordered.Perm authored ∧ names.Nodup ∧
        List.Forall₂ (fun f g => f.model spec.fullName spec.direction = .ok g) ordered m.fields) ∧
      (∀ f ∈ authored, ∀ name, f.prerequisite = some name →
        ∃ p ∈ authored, p.name = name ∧
          (Before names p.name f.name ↔
            p.prerequisite = none ∨ Before (authored.map (·.name)) p.name f.name)) ∧
      reported.Perm (authored.filterMap (·.chain? authored)) ∧
      (reported = [] → ∀ f ∈ authored, ∀ name, f.prerequisite = some name →
        Before names name f.name) := by
  intro authored ordered names reported
  obtain ⟨hr, hc, hg, he⟩ := ContainerSpec.of_compile h
  have hn : (authored.map (·.name)).Nodup := hc.nodup_names
  have hordered : declarationOrder authored = ordered := declarationOrder_eq authored
  have hnames : names = (declarationOrder authored).map (·.name) :=
    Model.map_eq_map (fun _ _ => rfl) hg
  have hreported : reported = authored.filterMap (·.chain? authored) := he.trans (chains_eq hn)
  have placed : ∀ f ∈ authored, ∀ name, f.prerequisite = some name →
      ∃ p ∈ authored, p.name = name ∧
        (Before names p.name f.name ↔
          p.prerequisite = none ∨ Before (authored.map (·.name)) p.name f.name) := by
    intro f hf name hp
    obtain ⟨-, p, hpm, hpn⟩ := hc.prerequisites f hf name hp
    exact ⟨p, hpm, hpn, hnames ▸ before_declarationOrder_iff hn hpm hf (by simp [hp])⟩
  refine ⟨hr, ⟨hordered ▸ declarationOrder_perm, ?_, hordered ▸ hg⟩, placed, hreported ▸ .refl _,
    fun hnone f hf name hp => ?_⟩
  · rw [hnames]
    exact (declarationOrder_perm.map _).nodup_iff.2 hn
  · obtain ⟨p, hpm, rfl, hb⟩ := placed f hf name hp
    refine hb.2 (.inl ?_)
    have hfind : authored.find? (·.name = p.name) = some p :=
      (find?_key_eq_some_iff hn).2 ⟨hpm, rfl⟩
    have hchain : f.chain? authored = none := by
      rw [hreported] at hnone
      exact List.filterMap_eq_nil_iff.1 hnone f hf
    cases hq : p.prerequisite with
    | none => rfl
    | some q => simp [Field.chain?, hp, hfind, hq] at hchain

/-- Three fields in a chain, written from its end to its start. -/
def chainSpec : ContainerSpec :=
  ⟨"Msg A", .input, some [⟨"C", some ⟨3⟩, some "guint8", none, some "B", [], none⟩,
    ⟨"B", some ⟨2⟩, some "array", none, some "A", [], some ⟨"", "string", [], none⟩⟩,
    ⟨"A", some ⟨1⟩, some "guint8", none, none, [], none⟩]⟩

theorem compile_order_chainSpec :
    ∃ m, (chainSpec.compile .empty).run.value = .ok m ∧
      m.fields.map (·.name) = ["A", "C", "B"] ∧
      ((chainSpec.compile .empty).run.events.filter Event.isChain).Perm [.chain "C" "B" "A"] := by
  obtain ⟨m, hm⟩ : ∃ m, (chainSpec.compile .empty).run.value = .ok m :=
    exists_eq_ok_of_isOk (by decide +kernel)
  obtain ⟨-, ⟨-, -, hg⟩, -, hreported, -⟩ := compile_order hm
  have hnames : m.fields.map (·.name) = _ := Model.map_eq_map (fun _ _ => rfl) hg
  exact ⟨m, hm, hnames.trans (by decide), hreported.trans (.of_eq (by decide))⟩

end TlvSchema
