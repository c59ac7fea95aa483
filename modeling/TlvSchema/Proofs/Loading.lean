import TlvSchema.Proofs.Json
import TlvSchema.Schema

/-!
# What a schema is made of

The entries of a schema are taken one after the other.  An entry that is at fault ends the loading.  Of
the others, definitions only add to the common definitions, messages and indications only add to the
containers, and the rest adds nothing.  So the two kinds of entries do not get into each other's way: a
definition may stand after its use, and entries without an effect may stand anywhere.

* `Json.isDefinition_iff` — what makes an entry a definition, whatever its type
* `Schema.value_addEntry_of_faulty`, `Schema.value_addEntry` — one entry
* `Schema.value_foldlM_of_faulty`, `Schema.value_foldlM` — all entries
* `Schema.load_spec` — the schema that a text stands for
-/

namespace TlvSchema

open Json (readText readOptional)

/-! ### Kinds of entries -/

namespace Json

variable {entry : Json}

/-- The entry defines a common field. -/
def isTemplate (entry : Json) : Bool := entry.isDefinition && entry.entryType = some "TLV"

/-- The entry describes a message or an indication. -/
def isMessage (entry : Json) : Bool :=
  !entry.isDefinition && (entry.entryType = some "Message" || entry.entryType = some "Indication")

/-- The reference that an entry gives to others; null gives the empty one. -/
def reference? (entry : Json) : Option String :=
  match entry.get? "common-ref" with
  | some .null => some ""
  | some (.string reference) => some reference
  | _ => none

/-- The field that an entry defines, if it has all attributes. -/
def template? (entry : Json) : Option Field :=
  (FieldEntry.ofJson entry).toOption.bind fun e => e.toField.toOption

/-- The containers of a message, its input before its output, or of an indication, which has no input. -/
def containers (entry : Json) : List ContainerSpec :=
  match MessageEntry.ofJson entry with
  | .ok m =>
    if entry.entryType = some "Message" then
      [⟨m.fullName, .input, m.input⟩, ⟨m.fullName, .output, m.output⟩]
    else [⟨m.fullName, .output, m.output⟩]
  | .error _ => []

/-- What can be wrong with an entry. -/
inductive Faulty (entry : Json) : LoadError → Prop where
  /-- A definition is not a field. -/
  | definition {m : Mismatch} (ht : entry.isTemplate) (h : FieldEntry.ofJson entry = .error m) :
    Faulty entry (.json (.ofMismatch m))
  /-- A definition lacks an attribute. -/
  | incomplete {e : FieldEntry} {reference : String} {missing : Attribute} (ht : entry.isTemplate)
    (h : FieldEntry.ofJson entry = .ok e) (hr : entry.reference? = some reference)
    (hm : e.toField = .error missing) :
    Faulty entry (.schema (.incompleteDefinition reference missing))
  /-- A message or an indication does not have the shape of one. -/
  | message {m : Mismatch} (hm : entry.isMessage) (h : MessageEntry.ofJson entry = .error m) :
    Faulty entry (.json (.ofMismatch m))

theorem hasKey_iff {key : String} :
    entry.hasKey key = true ↔ ∃ entries, entry = .object entries ∧ key ∈ entries.map Prod.fst := by
  cases entry with
  | object entries =>
    rw [hasKey, get?, isSome_lookup_iff]
    exact ⟨fun h => ⟨entries, rfl, h⟩, fun ⟨_, he, h⟩ => Json.object.inj he ▸ h⟩
  | _ => exact iff_of_false Bool.false_ne_true fun ⟨_, he, _⟩ => nomatch he

/-- **An entry is a definition if it has a reference and describes neither input nor output.**  What
the values are does not matter. -/
theorem isDefinition_iff : entry.isDefinition = true ↔ ∃ entries, entry = .object entries ∧
    "common-ref" ∈ entries.map Prod.fst ∧ "input" ∉ entries.map Prod.fst ∧
      "output" ∉ entries.map Prod.fst := by
  rw [isDefinition, Bool.and_eq_true, Bool.and_eq_true, Bool.not_eq_true', Bool.not_eq_true',
    ← Bool.not_eq_true, ← Bool.not_eq_true]
  simp only [hasKey_iff]
  constructor
  · rintro ⟨⟨⟨entries, rfl, hr⟩, hi⟩, ho⟩
    exact ⟨entries, rfl, hr, fun h => hi ⟨entries, rfl, h⟩, fun h => ho ⟨entries, rfl, h⟩⟩
  · rintro ⟨entries, rfl, hr, hi, ho⟩
    refine ⟨⟨⟨entries, rfl, hr⟩, ?_⟩, ?_⟩
    · rintro ⟨_, ⟨⟩, h⟩
      exact hi h
    · rintro ⟨_, ⟨⟩, h⟩
      exact ho h

theorem isTemplate_iff : entry.isTemplate = true ↔
    entry.isDefinition = true ∧ entry.entryType = some "TLV" := by
  rw [isTemplate, Bool.and_eq_true, decide_eq_true_eq]

theorem isMessage_iff : entry.isMessage = true ↔ ¬ entry.isDefinition = true ∧
    (entry.entryType = some "Message" ∨ entry.entryType = some "Indication") := by
  rw [isMessage, Bool.and_eq_true, Bool.or_eq_true, decide_eq_true_eq, decide_eq_true_eq,
    Bool.not_eq_true', Bool.not_eq_true]

theorem get?_of_entryType {type : String} (h : entry.entryType = some type) :
    entry.get? "type" = some (.string type) := by
  obtain ⟨j, hj, ht⟩ := Option.bind_eq_some_iff.1 h
  cases j with
  | string text =>
    cases ht
    exact hj
  | _ => cases ht

/-- The reference of a definition that is read is the one that the entry gives. -/
theorem reference?_of_ofJson {e : FieldEntry} (hd : entry.DistinctKeys)
    (hdef : entry.isDefinition = true) (h : FieldEntry.ofJson entry = .ok e) :
    entry.reference? = some (e.reference.getD "") := by
  have hkey : entry.hasKey "common-ref" = true := by
    obtain ⟨entries, rfl, hr, -⟩ := isDefinition_iff.1 hdef
    exact hasKey_iff.2 ⟨entries, rfl, hr⟩
  obtain ⟨value, hv⟩ := Option.isSome_iff_exists.1 hkey
  have hr := FieldEntry.reference_of_ofJson hd h hv
  rw [reference?, hv]
  cases value with
  | null =>
    have he : none = e.reference := Except.ok.inj hr
    rw [← he]
    rfl
  | string text =>
    have he : some text = e.reference := Except.ok.inj hr
    rw [← he]
    rfl
  | _ => cases hr

/-- A definition that is not at fault has a reference and a field. -/
theorem definition_of_not_faulty (hd : entry.DistinctKeys) (ht : entry.isTemplate = true)
    (h : ∀ e, ¬ entry.Faulty e) : ∃ e field, FieldEntry.ofJson entry = .ok e ∧
      e.toField = .ok field ∧ entry.reference? = some (e.reference.getD "") ∧
        entry.template? = some field := by
  cases hj : FieldEntry.ofJson entry with
  | error m => exact absurd (.definition ht hj) (h _)
  | ok e =>
    have hr := reference?_of_ofJson hd (isTemplate_iff.1 ht).1 hj
    cases hf : e.toField with
    | error missing => exact absurd (.incomplete ht hj hr hf) (h _)
    | ok field =>
      refine ⟨e, field, rfl, hf, hr, ?_⟩
      rw [template?, hj]
      exact congrArg Except.toOption hf

end Json

/-! ### One entry -/

theorem MessageEntry.value_containers (m : MessageEntry) :
    m.containers.value = if m.type = "Message" then
      [⟨m.fullName, .input, m.input⟩, ⟨m.fullName, .output, m.output⟩]
    else [⟨m.fullName, .output, m.output⟩] := by
  unfold containers
  dsimp only
  split_ifs <;> rfl

/-- The containers of a message that is read go by the type that the entry gives. -/
theorem Json.value_containers_of_ofJson {entry : Json} {m : MessageEntry} (hd : entry.DistinctKeys)
    (ht : entry.entryType = some "Message" ∨ entry.entryType = some "Indication")
    (h : MessageEntry.ofJson entry = .ok m) : m.containers.value = entry.containers := by
  have htype (type : String) (hentry : entry.entryType = some type) : m.type = type := by
    have hr := MessageEntry.type_of_ofJson hd h (get?_of_entryType hentry)
    exact (Except.ok.inj hr).symm
  rw [MessageEntry.value_containers, containers, h]
  rcases ht with ht | ht
  · rw [ht, if_pos (htype _ ht)]
    rfl
  · rw [ht, if_neg (by rw [htype _ ht]; decide)]
    rfl

theorem Logged.value_run_bind {ε α β : Type} (x : ExceptT ε Logged α) (f : α → ExceptT ε Logged β) :
    (x >>= f).run.value = x.run.value >>= fun a => (f a).run.value := by
  rw [ExceptT.run_bind, Logged.value_bind]
  cases x.run.value <;> rfl

namespace CommonTable

variable {t : CommonTable} {reference r : String} {field : Field}

/-- The table with one more definition, unless its reference is taken. -/
def add (t : CommonTable) (reference : String) (field : Field) : CommonTable :=
  if (t.get? reference).isSome then t else t.insert reference field

/-- The table with what an entry defines. -/
def addTemplate (t : CommonTable) (entry : Json) : CommonTable :=
  match entry.reference?, entry.template? with
  | some reference, some field => t.add reference field
  | _, _ => t

theorem lookup_put (es : List (String × Field)) :
    (put reference field es).lookup r = if r = reference then some field else es.lookup r := by
  induction es with
  | nil =>
    by_cases h : r = reference
    · simp [put, h]
    · simp [put, List.lookup_cons, h, beq_false_of_ne h]
  | cons e es ih =>
    rw [put]
    by_cases he : e.1 = reference <;> by_cases hr : r = reference <;> grind

/-- The first definition of a reference counts. -/
theorem get?_add : (t.add reference field).get? r =
    (t.get? r).or (if r = reference then some field else none) := by
  unfold add
  split_ifs with hs hr hr
  · rw [hr, Option.or_of_isSome hs]
  · rw [Option.or_none]
  · have hnone : t.get? r = none := by
      rw [hr]
      exact Option.not_isSome_iff_eq_none.1 hs
    rw [hnone]
    exact (lookup_put t.entries).trans (if_pos hr)
  · rw [Option.or_none]
    exact (lookup_put t.entries).trans (if_neg hr)

end CommonTable

namespace Schema

variable {s : Schema} {entry : Json} {entries : List Json} {e : LoadError}

/-- The schema with what an entry adds to it. -/
def extend (s : Schema) (entry : Json) : Schema :=
  if entry.isTemplate then { s with common := s.common.addTemplate entry }
  else if entry.isMessage then { s with containers := s.containers ++ entry.containers }
  else s

theorem value_addDefinition (ht : entry.entryType = some "TLV") :
    (s.addDefinition entry).run.value = do
      let field ← (FieldEntry.ofJson entry).mapError fun m => LoadError.json (.ofMismatch m)
      let d ← field.definition.mapError LoadError.schema
      return { s with common := s.common.add d.1 d.2 } := by
  unfold addDefinition
  rw [if_neg (not_not.2 ht), Logged.value_run_bind]
  refine bind_congr fun field => ?_
  rw [Logged.value_run_bind]
  refine bind_congr fun d => ?_
  dsimp only [CommonTable.add]
  split_ifs <;> rfl

theorem value_addMessage
    (ht : entry.entryType = some "Message" ∨ entry.entryType = some "Indication") :
    (s.addMessage entry).run.value = do
      let message ← (MessageEntry.ofJson entry).mapError fun m => LoadError.json (.ofMismatch m)
      return { s with containers := s.containers ++ message.containers.value } := by
  unfold addMessage
  rw [if_pos ht, Logged.value_run_bind]
  rfl

/-- An entry at fault ends the loading. -/
theorem value_addEntry_of_faulty (hd : entry.DistinctKeys) (h : entry.Faulty e) :
    (s.addEntry entry).run.value = .error e := by
  unfold addEntry
  cases h with
  | definition ht h =>
    obtain ⟨hdef, htype⟩ := Json.isTemplate_iff.1 ht
    rw [if_pos hdef, value_addDefinition htype, h]
    rfl
  | incomplete ht h hr hm =>
    obtain ⟨hdef, htype⟩ := Json.isTemplate_iff.1 ht
    have href := Option.some.inj ((Json.reference?_of_ofJson hd hdef h).symm.trans hr)
    rw [if_pos hdef, value_addDefinition htype, h, ← href]
    change (FieldEntry.definition _).mapError LoadError.schema >>= _ = _
    rw [FieldEntry.definition, hm]
    rfl
  | message hm h =>
    obtain ⟨hdef, htype⟩ := Json.isMessage_iff.1 hm
    rw [if_neg hdef, value_addMessage htype, h]
    rfl

/-- Any other entry adds something, or nothing. -/
theorem value_addEntry (hd : entry.DistinctKeys) (h : ∀ e, ¬ entry.Faulty e) :
    (s.addEntry entry).run.value = .ok (s.extend entry) := by
  unfold addEntry extend
  by_cases hdef : entry.isDefinition = true
  · by_cases htype : entry.entryType = some "TLV"
    · have ht := Json.isTemplate_iff.2 ⟨hdef, htype⟩
      obtain ⟨e, field, hj, hf, hr, htemplate⟩ := Json.definition_of_not_faulty hd ht h
      rw [if_pos hdef, if_pos ht, value_addDefinition htype, hj, CommonTable.addTemplate, hr, htemplate]
      change e.definition.mapError LoadError.schema >>= _ = _
      rw [FieldEntry.definition, hf]
      rfl
    · have ht : ¬ entry.isTemplate = true := fun ht => htype (Json.isTemplate_iff.1 ht).2
      have hm : ¬ entry.isMessage = true := fun hm => (Json.isMessage_iff.1 hm).1 hdef
      rw [if_pos hdef, if_neg ht, if_neg hm, addDefinition, if_pos htype]
      rfl
  · have ht : ¬ entry.isTemplate = true := fun ht => hdef (Json.isTemplate_iff.1 ht).1
    rw [if_neg hdef, if_neg ht]
    by_cases htype : entry.entryType = some "Message" ∨ entry.entryType = some "Indication"
    · have hm := Json.isMessage_iff.2 ⟨hdef, htype⟩
      rw [if_pos hm, value_addMessage htype]
      cases hj : MessageEntry.ofJson entry with
      | error m => exact absurd (.message hm hj) (h _)
      | ok m =>
        rw [← Json.value_containers_of_ofJson hd htype hj]
        rfl
    · have hm : ¬ entry.isMessage = true := fun hm => htype (Json.isMessage_iff.1 hm).2
      rw [if_neg hm, addMessage, if_neg htype]
      rfl

/-! ### All entries -/

/-- The first entry at fault ends the loading. -/
theorem value_foldlM_of_faulty {before after : List Json} (hd : ∀ b ∈ before, b.DistinctKeys)
    (hentry : entry.DistinctKeys) (hb : ∀ b ∈ before, ∀ e, ¬ b.Faulty e) (h : entry.Faulty e) :
    ((before ++ entry :: after).foldlM addEntry s).run.value = .error e := by
  induction before generalizing s with
  | nil =>
    rw [List.nil_append, List.foldlM_cons, Logged.value_run_bind, value_addEntry_of_faulty hentry h]
    rfl
  | cons b before ih =>
    obtain ⟨hdb, hd⟩ := List.forall_mem_cons.1 hd
    obtain ⟨hsound, hb⟩ := List.forall_mem_cons.1 hb
    rw [List.cons_append, List.foldlM_cons, Logged.value_run_bind, value_addEntry hdb hsound]
    exact ih hd hb

/-- Entries that are not at fault add something one after the other. -/
theorem value_foldlM (hd : ∀ entry ∈ entries, entry.DistinctKeys)
    (h : ∀ entry ∈ entries, ∀ e, ¬ entry.Faulty e) :
    (entries.foldlM addEntry s).run.value = .ok (entries.foldl extend s) := by
  induction entries generalizing s with
  | nil => rfl
  | cons entry entries ih =>
    obtain ⟨hde, hd⟩ := List.forall_mem_cons.1 hd
    obtain ⟨hsound, h⟩ := List.forall_mem_cons.1 h
    rw [List.foldlM_cons, Logged.value_run_bind, value_addEntry hde hsound]
    exact ih hd h

/-- Definitions and messages do not get into each other's way. -/
theorem foldl_extend : entries.foldl extend s =
    ⟨(entries.filter Json.isTemplate).foldl CommonTable.addTemplate s.common,
      s.containers ++ (entries.filter Json.isMessage).flatMap Json.containers⟩ := by
  induction entries generalizing s with
  | nil => rw [List.filter_nil, List.filter_nil, List.flatMap_nil, List.append_nil]; rfl
  | cons entry entries ih =>
    rw [List.foldl_cons, ih, extend]
    by_cases ht : entry.isTemplate = true
    · have hm : ¬ entry.isMessage = true := fun hm =>
        (Json.isMessage_iff.1 hm).1 (Json.isTemplate_iff.1 ht).1
      rw [if_pos ht, List.filter_cons_of_pos ht, List.filter_cons_of_neg hm, List.foldl_cons]
    · rw [if_neg ht, List.filter_cons_of_neg ht]
      by_cases hm : entry.isMessage = true
      · rw [if_pos hm, List.filter_cons_of_pos hm, List.flatMap_cons, List.append_assoc]
      · rw [if_neg hm, List.filter_cons_of_neg hm]

/-- Of the definitions with one reference the first one counts. -/
theorem get?_foldl_addTemplate {t : CommonTable} (h : ∀ entry ∈ entries,
      ∃ reference field, entry.reference? = some reference ∧ entry.template? = some field)
    (r : String) : (entries.foldl CommonTable.addTemplate t).get? r =
      (t.get? r).or ((entries.find? (·.reference? = some r)).bind Json.template?) := by
  induction entries generalizing t with
  | nil => exact Option.or_none.symm
  | cons entry entries ih =>
    obtain ⟨⟨reference, field, hr, hf⟩, h⟩ := List.forall_mem_cons.1 h
    rw [List.foldl_cons, ih h, CommonTable.addTemplate, hr, hf, CommonTable.get?_add, Option.or_assoc]
    congr 1
    by_cases heq : r = reference
    · rw [if_pos heq, List.find?_cons_of_pos (by simpa [hr] using heq.symm)]
      exact hf.symm
    · rw [if_neg heq, List.find?_cons_of_neg (by simpa [hr] using Ne.symm heq)]
      rfl

/-- An entry that is at fault is a definition, a message or an indication. -/
theorem isTemplate_or_isMessage_of_faulty (h : entry.Faulty e) :
    entry.isTemplate = true ∨ entry.isMessage = true := by
  cases h with
  | definition ht | incomplete ht => exact .inl ht
  | message hm => exact .inr hm

theorem exists_first {α : Type} (p : α → Prop) (l : List α) : (∀ a ∈ l, ¬ p a) ∨
    ∃ before a after, l = before ++ a :: after ∧ p a ∧ ∀ b ∈ before, ¬ p b := by
  induction l with
  | nil => exact .inl (List.forall_mem_nil _)
  | cons a l ih =>
    by_cases ha : p a
    · exact .inr ⟨[], a, l, rfl, ha, List.forall_mem_nil _⟩
    · rcases ih with hnone | ⟨before, b, after, rfl, hb, hbefore⟩
      · exact .inl (List.forall_mem_cons.2 ⟨ha, hnone⟩)
      · exact .inr ⟨a :: before, b, after, rfl, hb, List.forall_mem_cons.2 ⟨ha, hbefore⟩⟩

/-! ### Texts -/

section

variable {text : String} (h : Json.parseArray text = .ok entries)

include h

theorem value_load : (load text).run.value = (entries.foldlM addEntry empty).run.value := by
  rw [load, h]
  rfl

/-- Loading ends with the first entry that is at fault. -/
theorem load_eq_error_of_faulty {before after : List Json} (he : entries = before ++ entry :: after)
    (hb : ∀ b ∈ before, ∀ e, ¬ b.Faulty e) (hf : entry.Faulty e) :
    (load text).run.value = .error e := by
  have hd := fun (v : Json) (hv : v ∈ before ++ entry :: after) =>
    Json.distinctKeys_of_parseArray h (he ▸ hv)
  rw [value_load h, he]
  refine value_foldlM_of_faulty (fun b hmem => ?_) ?_ hb hf
  · exact hd b (List.mem_append_left _ hmem)
  · exact hd entry (List.mem_append_right _ List.mem_cons_self)

/-- Without a fault, a schema has what its definitions and messages give. -/
theorem load_eq_ok_of_sound (hs : ∀ entry ∈ entries, ∀ e, ¬ entry.Faulty e) :
    (load text).run.value = .ok
      ⟨(entries.filter Json.isTemplate).foldl CommonTable.addTemplate .empty,
        (entries.filter Json.isMessage).flatMap Json.containers⟩ := by
  rw [value_load h, value_foldlM (fun _ hmem => Json.distinctKeys_of_parseArray h hmem) hs,
    foldl_extend]
  rfl

theorem load_eq_error_iff : (load text).run.value = .error e ↔
    ∃ before entry after, entries = before ++ entry :: after ∧ entry.Faulty e ∧
      ∀ b ∈ before, ∀ e', ¬ b.Faulty e' := by
  constructor
  · intro he
    rcases exists_first (fun entry : Json => ∃ e, entry.Faulty e) entries with hs | hf
    · rw [load_eq_ok_of_sound h fun entry hmem e hf => hs entry hmem ⟨e, hf⟩] at he
      cases he
    · obtain ⟨before, entry, after, hentries, ⟨e', hf⟩, hb⟩ := hf
      have hb' := fun b hmem e hf => hb b hmem ⟨e, hf⟩
      rw [load_eq_error_of_faulty h hentries hb' hf] at he
      cases he
      exact ⟨before, entry, after, hentries, hf, hb'⟩
  · rintro ⟨before, entry, after, hentries, hf, hb⟩
    exact load_eq_error_of_faulty h hentries hb hf

theorem not_faulty_of_load_eq_ok (hl : (load text).run.value = .ok s) :
    ∀ entry ∈ entries, ∀ e, ¬ entry.Faulty e := by
  rcases exists_first (fun entry : Json => ∃ e, entry.Faulty e) entries with hs | hf
  · exact fun entry hmem e hf => hs entry hmem ⟨e, hf⟩
  · obtain ⟨before, entry, after, hentries, ⟨e, hf⟩, hb⟩ := hf
    rw [load_eq_error_of_faulty h hentries (fun b hmem e hf => hb b hmem ⟨e, hf⟩) hf] at hl
    cases hl

/-- The schema that a text stands for depends on the definitions among themselves and on the messages
among themselves. -/
theorem load_congr {text' : String} {entries' : List Json}
    (h' : Json.parseArray text' = .ok entries')
    (ht : entries'.filter Json.isTemplate = entries.filter Json.isTemplate)
    (hm : entries'.filter Json.isMessage = entries.filter Json.isMessage)
    (hl : (load text).run.value = .ok s) : (load text').run.value = .ok s := by
  have hs := not_faulty_of_load_eq_ok h hl
  have hs' : ∀ entry ∈ entries', ∀ e, ¬ entry.Faulty e := by
    intro entry hmem e hf
    rcases isTemplate_or_isMessage_of_faulty hf with hk | hk
    · have hmem' := ht ▸ List.mem_filter.2 ⟨hmem, hk⟩
      exact hs entry (List.mem_filter.1 hmem').1 e hf
    · have hmem' := hm ▸ List.mem_filter.2 ⟨hmem, hk⟩
      exact hs entry (List.mem_filter.1 hmem').1 e hf
  rw [← hl, load_eq_ok_of_sound h hs, load_eq_ok_of_sound h' hs', ht, hm]

/-- **What a schema is made of.**  An entry with a reference and neither input nor output is a
definition, whatever the values are.  Loading fails with the error of the first entry that is at fault.
Without one the containers are those of the messages and indications in order, and a reference stands
for the field of the first definition that has it.  So moving definitions, or entries that are left out,
does not change the schema, as long as the definitions and the messages keep their order. -/
theorem load_spec :
    (∀ entry : Json, entry.isDefinition = true ↔ ∃ fields, entry = .object fields ∧
      "common-ref" ∈ fields.map Prod.fst ∧ "input" ∉ fields.map Prod.fst ∧
        "output" ∉ fields.map Prod.fst) ∧
    (∀ e, (load text).run.value = .error e ↔
      ∃ before entry after, entries = before ++ entry :: after ∧ entry.Faulty e ∧
        ∀ b ∈ before, ∀ e', ¬ b.Faulty e') ∧
    ((∀ entry ∈ entries, ∀ e, ¬ entry.Faulty e) →
      ∃ schema, (load text).run.value = .ok schema ∧
        schema.containers = (entries.filter Json.isMessage).flatMap Json.containers ∧
        ∀ reference, schema.common.get? reference =
          ((entries.filter Json.isTemplate).find? (·.reference? = some reference)).bind
            Json.template?) ∧
    ∀ text' entries' schema, Json.parseArray text' = .ok entries' →
      entries'.filter Json.isTemplate = entries.filter Json.isTemplate →
      entries'.filter Json.isMessage = entries.filter Json.isMessage →
      (load text).run.value = .ok schema → (load text').run.value = .ok schema := by
  refine ⟨fun entry => Json.isDefinition_iff, fun e => load_eq_error_iff h, fun hs => ?_, ?_⟩
  · refine ⟨_, load_eq_ok_of_sound h hs, rfl, fun reference => ?_⟩
    refine get?_foldl_addTemplate (fun entry hmem => ?_) reference
    obtain ⟨hmem, ht⟩ := List.mem_filter.1 hmem
    obtain ⟨e, field, -, -, hr, hf⟩ := Json.definition_of_not_faulty
      (Json.distinctKeys_of_parseArray h hmem) ht (hs entry hmem)
    exact ⟨_, field, hr, hf⟩
  · exact fun text' entries' schema h' ht hm hl => load_congr h h' ht hm hl

end

/-- An indication whose output is a field by reference. -/
def indicationWithReference : Json :=
  .object [("name", .string "A"), ("output", .array [.object [("common-ref", .string "r")]]),
    ("type", .string "Indication")]

/-- The definition of the reference. -/
def definitionOfReference : Json :=
  .object [("common-ref", .string "r"), ("format", .string "guint8"), ("id", .integer 1),
    ("name", .string "X"), ("type", .string "TLV")]

/-- The definition after its use. -/
def laterDefinition : String :=
  "[\x7b\"type\":\"Indication\",\"name\":\"A\",\"output\":[\x7b\"common-ref\":\"r\"\x7d]\x7d," ++
    "\x7b\"common-ref\":\"r\",\"type\":\"TLV\",\"name\":\"X\",\"id\":1,\"format\":\"guint8\"\x7d]"

/-- The definition before its use, and an entry that is left out. -/
def earlierDefinition : String :=
  "[\x7b\"common-ref\":\"r\",\"type\":\"TLV\",\"name\":\"X\",\"id\":1,\"format\":\"guint8\"\x7d," ++
    "null,\x7b\"type\":\"Indication\",\"name\":\"A\",\"output\":[\x7b\"common-ref\":\"r\"\x7d]\x7d]"

theorem parseArray_laterDefinition :
    Json.parseArray laterDefinition = .ok [indicationWithReference, definitionOfReference] := by
  cbv

theorem parseArray_earlierDefinition : Json.parseArray earlierDefinition =
    .ok [definitionOfReference, .null, indicationWithReference] := by
  cbv

theorem load_spec_laterDefinition : ∃ schema, (load laterDefinition).run.value = .ok schema ∧
    (load earlierDefinition).run.value = .ok schema ∧
    schema.containers.map ContainerSpec.fullName = ["Indication A Output"] ∧
    (schema.common.get? "r").map Field.name = some "X" := by
  obtain ⟨-, -, hsound, hmoved⟩ := load_spec parseArray_laterDefinition
  obtain ⟨s, hs⟩ : ∃ s, (load laterDefinition).run.value = .ok s :=
    exists_eq_ok_of_isOk (by decide +kernel)
  obtain ⟨schema, hl, hc, ht⟩ := hsound (not_faulty_of_load_eq_ok parseArray_laterDefinition hs)
  refine ⟨schema, hl, hmoved _ _ schema parseArray_earlierDefinition ?_ ?_ hl, ?_, ?_⟩
  · cbv
  · cbv
  · rw [hc]
    cbv
  · rw [ht]
    cbv

end Schema

end TlvSchema
