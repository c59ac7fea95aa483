import TlvSchema.Container
import TlvSchema.Proofs.Model

/-!
# Slots of a container

A value is put into a slot if it fits, that is if there is a field of the name and the value has its
type.  Values that are put into slots one after the other either all fit, and then each field holds the
last value for it, or the first one that does not fit is refused.

* `misfit?` — why a value does not fit
* `valueIn` — the value of a field in some slots
* `placeAll_of_fits`, `placeAll_of_misfit` — several values, one after the other
* `Alike` — models that put values into the same slots, such as those of the two directions
-/

namespace TlvSchema

namespace Model

variable {m m' : Model} {slots : List (Option Value)} {values : List (String × Value)}
  {p : String × Value} {name : String} {e : UsageError} {i : ℕ}

/-! ### Fields of a name -/

theorem field?_eq : m.field? name = (m.fieldIndex? name).bind fun i => m.fields[i]? :=
  List.find?_eq_bind_findIdx?_getElem?

theorem lt_length_of_fieldIndex? (h : m.fieldIndex? name = some i) : i < m.fields.length :=
  (List.findIdx?_eq_some_iff_getElem.1 h).1

/-- Two names do not lead to the same field. -/
theorem fieldIndex?_inj {name' : String} (h : m.fieldIndex? name = some i)
    (h' : m.fieldIndex? name' = some i) : name = name' := by
  obtain ⟨hi, hn, -⟩ := List.findIdx?_eq_some_iff_getElem.1 h
  obtain ⟨_, hn', -⟩ := List.findIdx?_eq_some_iff_getElem.1 h'
  have he : m.fields[i].name = name := by simpa using hn
  have he' : m.fields[i].name = name' := by simpa using hn'
  exact he.symm.trans he'

theorem name_of_field? {f : FieldModel} (h : m.field? name = some f) : f.name = name := by
  simpa using List.find?_some h

theorem lookup_eq :
    m.lookup name =
      match m.field? name with
      | none => .error (.unknownField m.fullName name)
      | some f => .ok ((m.fieldIndex? name).getD 0, f) := by
  rw [lookup, field?_eq]
  cases hi : m.fieldIndex? name with
  | none => rfl
  | some i =>
    have hlt := lt_length_of_fieldIndex? hi
    simp [List.getElem?_eq_getElem hlt]

/-! ### Values that fit -/

/-- Why a value cannot be put into the slot of a field. -/
def misfit? (m : Model) (p : String × Value) : Option UsageError :=
  match m.field? p.1 with
  | none => some (.unknownField m.fullName p.1)
  | some f => if p.2.hasType f.type then none
    else some (.typeMismatch m.fullName p.1 f.type.display)

/-- The value of a field in the slots of a model. -/
def valueIn (m : Model) (slots : List (Option Value)) (name : String) : Option Value :=
  (m.fieldIndex? name).bind fun i => slots[i]?.join

theorem place_eq :
    m.place slots p.1 p.2 =
      match m.misfit? p with
      | some e => .error e
      | none => .ok (slots.set ((m.fieldIndex? p.1).getD 0) (some p.2)) := by
  rw [place, lookup_eq, misfit?]
  cases hf : m.field? p.1 with
  | none => rfl
  | some f =>
    have hn : f.name = p.1 := name_of_field? hf
    by_cases ht : p.2.hasType f.type = true
    · simp [ht, bind, Except.bind, pure, Except.pure]
    · simp [ht, bind, Except.bind, hn]

theorem place_of_fits (h : m.misfit? p = none) :
    m.place slots p.1 p.2 = .ok (slots.set ((m.fieldIndex? p.1).getD 0) (some p.2)) := by
  rw [place_eq, h]

theorem place_of_misfit (h : m.misfit? p = some e) : m.place slots p.1 p.2 = .error e := by
  rw [place_eq, h]

theorem place_eq_error_iff : m.place slots p.1 p.2 = .error e ↔ m.misfit? p = some e := by
  rw [place_eq]
  cases m.misfit? p <;> simp

theorem misfit?_eq_none_iff :
    m.misfit? p = none ↔ ∃ f, m.field? p.1 = some f ∧ p.2.hasType f.type = true := by
  rw [misfit?]
  cases hf : m.field? p.1 with
  | none => simp
  | some f =>
    by_cases ht : p.2.hasType f.type = true
    · simp [ht]
    · simp [ht]

theorem exists_fieldIndex? (h : m.misfit? p = none) : ∃ i, m.fieldIndex? p.1 = some i := by
  rw [misfit?, field?_eq] at h
  cases hi : m.fieldIndex? p.1 with
  | none => simp [hi] at h
  | some i => exact ⟨i, rfl⟩

/-- Putting a value into a slot changes the value of its field and of no other one. -/
theorem valueIn_set (hlen : slots.length = m.fields.length) (h : m.misfit? p = none) :
    m.valueIn (slots.set ((m.fieldIndex? p.1).getD 0) (some p.2)) name =
      if name = p.1 then some p.2 else m.valueIn slots name := by
  obtain ⟨i, hi⟩ := exists_fieldIndex? h
  have hlt : i < slots.length := hlen ▸ lt_length_of_fieldIndex? hi
  rw [hi, Option.getD_some]
  by_cases hn : name = p.1
  · rw [if_pos hn, valueIn, hn, hi, Option.bind_some, List.getElem?_set_self hlt]
    rfl
  · rw [if_neg hn, valueIn, valueIn]
    cases hj : m.fieldIndex? name with
    | none => rfl
    | some j =>
      have hij : i ≠ j := fun he => hn (fieldIndex?_inj hj (he ▸ hi))
      rw [Option.bind_some, Option.bind_some, List.getElem?_set_ne hij]

theorem length_emptySlots (m : Model) : m.emptySlots.length = m.fields.length := List.length_map _

theorem valueIn_emptySlots (m : Model) (name : String) : m.valueIn m.emptySlots name = none := by
  rw [valueIn, emptySlots]
  cases hi : m.fieldIndex? name with
  | none => rfl
  | some i =>
    have hlt := lt_length_of_fieldIndex? hi
    simp [hlt]

/-! ### Several values -/

theorem placeAll_cons (p : String × Value) (values : List (String × Value)) :
    m.placeAll slots (p :: values) = m.place slots p.1 p.2 >>= fun slots => m.placeAll slots values :=
  rfl

/-- **If all values fit, each field holds the last value for it.** -/
theorem placeAll_of_fits (hlen : slots.length = m.fields.length)
    (h : ∀ p ∈ values, m.misfit? p = none) :
    ∃ slots', m.placeAll slots values = .ok slots' ∧
      ∀ name, m.valueIn slots' name = (values.reverse.lookup name).or (m.valueIn slots name) := by
  induction values generalizing slots with
  | nil => exact ⟨slots, rfl, fun _ => rfl⟩
  | cons p values ih =>
    obtain ⟨field, value⟩ := p
    have hp := h (field, value) List.mem_cons_self
    have hset : (slots.set ((m.fieldIndex? field).getD 0) (some value)).length = m.fields.length := by
      rw [List.length_set, hlen]
    obtain ⟨slots', hs, hv⟩ := ih hset fun q hq => h q (List.mem_cons_of_mem _ hq)
    refine ⟨slots', ?_, fun name => ?_⟩
    · rw [placeAll_cons, place_of_fits hp]
      exact hs
    · -- the first value stays only if none of the others is for the same field
      rw [hv, valueIn_set hlen hp, List.reverse_cons, List.lookup_append, Option.or_assoc]
      by_cases hn : name = field
      · simp [hn]
      · simp [List.lookup_cons, hn, beq_eq_false_iff_ne.2 hn]

/-- **Otherwise the first value that does not fit is refused.** -/
theorem placeAll_of_misfit {before later : List (String × Value)}
    (hb : ∀ q ∈ before, m.misfit? q = none) (hp : m.misfit? p = some e) :
    m.placeAll slots (before ++ p :: later) = .error e := by
  induction before generalizing slots with
  | nil =>
    rw [List.nil_append, placeAll_cons, place_of_misfit hp]
    rfl
  | cons q before ih =>
    rw [List.cons_append, placeAll_cons, place_of_fits (hb q List.mem_cons_self)]
    exact ih fun r hr => hb r (List.mem_cons_of_mem q hr)

/-- Either all values fit, or there is a first one that does not. -/
theorem fits_or_first_misfit (m : Model) (values : List (String × Value)) :
    (∀ p ∈ values, m.misfit? p = none) ∨
      ∃ before p later e, values = before ++ p :: later ∧ (∀ q ∈ before, m.misfit? q = none) ∧
        m.misfit? p = some e := by
  induction values with
  | nil => exact .inl fun _ hp => absurd hp List.not_mem_nil
  | cons p values ih =>
    cases hp : m.misfit? p with
    | some e => exact .inr ⟨[], p, values, e, rfl, fun _ hq => absurd hq List.not_mem_nil, hp⟩
    | none =>
      refine ih.imp (fun h q hq => ?_) fun ⟨before, q, later, e, hv, hb, hq⟩ => ?_
      · rcases List.mem_cons.1 hq with rfl | hq
        · exact hp
        · exact h q hq
      · refine ⟨p :: before, q, later, e, by rw [hv, List.cons_append], fun r hr => ?_, hq⟩
        rcases List.mem_cons.1 hr with rfl | hr
        · exact hp
        · exact hb r hr

/-! ### Models that are alike -/

/-- The models have one name and the same fields, as far as values are concerned. -/
structure Alike (m m' : Model) : Prop where
  /-- The containers have one name. -/
  fullName : m.fullName = m'.fullName
  /-- The fields have the same names and types, in the same order. -/
  fields : m.fields.map (fun f => (f.name, f.type)) = m'.fields.map fun f => (f.name, f.type)

namespace Alike

theorem fieldIndex? (h : Alike m m') (name : String) : m.fieldIndex? name = m'.fieldIndex? name := by
  have hf : ∀ m : Model, m.fieldIndex? name =
      (m.fields.map fun f => (f.name, f.type)).findIdx? (·.1 = name) := fun m => by
    rw [List.findIdx?_map]
    rfl
  rw [hf, hf, h.fields]

theorem type? (h : Alike m m') (name : String) :
    (m.field? name).map (·.type) = (m'.field? name).map (·.type) := by
  have hf : ∀ m : Model, (m.field? name).map (·.type) =
      ((m.fields.map fun f => (f.name, f.type)).find? (·.1 = name)).map (·.2) := fun m => by
    rw [List.find?_map, Option.map_map]
    rfl
  rw [hf, hf, h.fields]

theorem emptySlots (h : Alike m m') : m.emptySlots = m'.emptySlots := by
  have hf : ∀ m : Model, m.emptySlots =
      (m.fields.map fun f => (f.name, f.type)).map fun _ => none := fun m => by
    rw [List.map_map]
    rfl
  rw [hf, hf, h.fields]

theorem misfit? (h : Alike m m') (p : String × Value) : m.misfit? p = m'.misfit? p := by
  have ht := h.type? p.1
  rw [Model.misfit?, Model.misfit?, h.fullName]
  cases hf : m.field? p.1 with
  | none =>
    cases hf' : m'.field? p.1 with
    | none => rfl
    | some f' => simp [hf, hf'] at ht
  | some f =>
    cases hf' : m'.field? p.1 with
    | none => simp [hf, hf'] at ht
    | some f' =>
      have hty : f.type = f'.type := by simpa [hf, hf'] using ht
      simp only [hty]

theorem valueIn (h : Alike m m') (slots : List (Option Value)) (name : String) :
    m.valueIn slots name = m'.valueIn slots name := by
  rw [Model.valueIn, Model.valueIn, h.fieldIndex?]

theorem placeAll (h : Alike m m') (values : List (String × Value)) :
    m.placeAll slots values = m'.placeAll slots values := by
  induction values generalizing slots with
  | nil => rfl
  | cons p values ih =>
    rw [placeAll_cons, placeAll_cons, place_eq, place_eq, h.misfit?, h.fieldIndex?]
    cases m'.misfit? p with
    | some e => rfl
    | none => exact ih

end Alike

/-- A list of fields that has a model in one direction has one in the other direction, and the two put
values into the same slots. -/
theorem build_alike {fullName : String} {direction : Direction} {fields : Option (List Field)}
    (h : build fullName direction fields = .ok m) (direction' : Direction) :
    ∃ m', build fullName direction' fields = .ok m' ∧ m'.direction = direction' ∧ Alike m' m := by
  cases fields with
  | none =>
    cases h
    exact ⟨_, rfl, rfl, rfl, rfl⟩
  | some fields =>
    obtain ⟨m', hm'⟩ : ∃ m', build fullName direction' (some fields) = .ok m' :=
      exists_build_iff.2 (exists_build_iff.1 ⟨m, h⟩)
    obtain ⟨gs, hg, -, rfl⟩ := build_eq_ok_iff.1 h
    obtain ⟨gs', hg', -, rfl⟩ := build_eq_ok_iff.1 hm'
    refine ⟨_, hm', rfl, rfl, ?_⟩
    change gs'.map (fun f => (f.name, f.type)) = gs.map fun f => (f.name, f.type)
    clear h hm'
    induction hg generalizing gs' with
    | nil =>
      cases hg'
      rfl
    | cons hf _ ih =>
      obtain _ | ⟨hf', hfs'⟩ := hg'
      -- the type of a field does not depend on the direction
      obtain ⟨-, type, ht, rfl⟩ := Field.model_eq_ok_iff.1 hf
      obtain ⟨-, type', ht', rfl⟩ := Field.model_eq_ok_iff.1 hf'
      have hty : type' = type := Except.ok.inj (ht'.symm.trans ht)
      rw [List.map_cons, List.map_cons, ih _ hfs', hty]
      rfl

end Model

/-! ### Reading -/

namespace Container

variable {c : Container} {name : String}

theorem get_eq :
    c.get name =
      match c.model.field? name with
      | none => .error (.unknownField c.model.fullName name)
      | some _ => .ok (c.model.valueIn c.slots name) := by
  rw [get, Model.lookup_eq, Model.valueIn, Model.field?_eq]
  cases hi : c.model.fieldIndex? name with
  | none => rfl
  | some i =>
    have hlt := Model.lt_length_of_fieldIndex? hi
    simp [List.getElem?_eq_getElem hlt, bind, Except.bind, pure, Except.pure]

theorem getOrDefault_eq :
    c.getOrDefault name =
      match c.model.field? name with
      | none => .error (.unknownField c.model.fullName name)
      | some f => match c.model.valueIn c.slots name with
        | some value => .ok (true, value)
        | none => .ok (false, Value.default f.type) := by
  rw [getOrDefault, Model.lookup_eq, Model.valueIn, Model.field?_eq]
  cases hi : c.model.fieldIndex? name with
  | none => rfl
  | some i =>
    have hlt := Model.lt_length_of_fieldIndex? hi
    simp only [Option.bind_some, List.getElem?_eq_getElem hlt, Option.getD_some, bind, Except.bind]
    cases c.slots[i]?.join <;> rfl

theorem isPresent_eq :
    c.isPresent name =
      match c.model.field? name with
      | none => .error (.unknownField c.model.fullName name)
      | some _ => .ok (c.model.valueIn c.slots name).isSome := by
  rw [isPresent, get_eq]
  cases c.model.field? name <;> rfl

/-- Containers whose models are alike and that have the same slots read the same. -/
theorem reads_eq {c' : Container} (hm : c.model.Alike c'.model) (hs : c.slots = c'.slots)
    (name : String) :
    c.get name = c'.get name ∧ c.getOrDefault name = c'.getOrDefault name ∧
      c.isPresent name = c'.isPresent name := by
  have ht := hm.type? name
  rw [get_eq, get_eq, getOrDefault_eq, getOrDefault_eq, isPresent_eq, isPresent_eq, hs, hm.fullName,
    hm.valueIn]
  cases hf : c.model.field? name with
  | none =>
    cases hf' : c'.model.field? name with
    | none => exact ⟨rfl, rfl, rfl⟩
    | some f' => simp [hf, hf'] at ht
  | some f =>
    cases hf' : c'.model.field? name with
    | none => simp [hf, hf'] at ht
    | some f' =>
      have hty : f.type = f'.type := by simpa [hf, hf'] using ht
      simp only [hty, and_self]

end Container

end TlvSchema
