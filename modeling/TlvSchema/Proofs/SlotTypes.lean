import TlvSchema.Proofs.Provenance

/-!
# Values have the types of their fields

A container has a slot for each field of its model, and what is in the slot has the type of the field.
A new container has it so, a value is put into a slot only after its type has been checked, and nothing
else changes a slot.  The default of a type is a value of the type, so that a reading always gives one.

* `hasType_default` — defaults have their types
* `SlotsFit` — slots that fit a model
* `fits_step`, `fits_after` — the slots of all containers fit, after a step and after a run
* `directionsAfter` — which handles are for filling containers and which for reading them
* `directed_after` — the direction of a handle is that of its container
* `typed_containers` — what is read through the handles after a run
-/

namespace TlvSchema

/-! ### Defaults -/

namespace Value

mutual

theorem hasType_default : ∀ type : FieldType, (default type).hasType type = true
  | .scalar kind => by cases kind <;> rfl
  | .string => rfl
  | .array _ => rfl
  | .struct members => haveTypes_defaults members

theorem haveTypes_defaults :
    ∀ members : List (String × FieldType), haveTypes (defaults members) members = true
  | [] => rfl
  | (_, type) :: members => by
    rw [defaults, haveTypes, hasType_default type, haveTypes_defaults members]
    rfl

end

end Value

/-! ### Slots that fit a model -/

namespace Model

variable {m : Model} {slots slots' : List (Option Value)} {name : String} {value : Value}
  {values : List (String × Value)} {f : FieldModel}

/-- The slots are those of a container with the model. -/
structure SlotsFit (m : Model) (slots : List (Option Value)) : Prop where
  /-- There is one slot for each field. -/
  length : slots.length = m.fields.length
  /-- A value has the type of the field in whose slot it is. -/
  types : ∀ (i : ℕ) (f : FieldModel) (v : Value), m.fields[i]? = some f →
    slots[i]? = some (some v) → v.hasType f.type = true

theorem slotsFit_emptySlots (m : Model) : m.SlotsFit m.emptySlots where
  length := m.length_emptySlots
  types i f v hf hv := by
    rw [emptySlots, List.getElem?_map, hf] at hv
    cases hv

namespace SlotsFit

theorem place (h : m.SlotsFit slots) (hp : m.place slots name value = .ok slots') :
    m.SlotsFit slots' := by
  cases hm : m.misfit? (name, value) with
  | some e =>
    have he : m.place slots name value = .error e := place_of_misfit hm
    rw [hp] at he
    cases he
  | none =>
    obtain ⟨g, hg, htype⟩ := misfit?_eq_none_iff.1 hm
    obtain ⟨i, hi⟩ := exists_fieldIndex? hm
    have he : m.place slots name value =
        .ok (slots.set ((m.fieldIndex? name).getD 0) (some value)) := place_of_fits hm
    rw [hp, hi, Option.getD_some, Except.ok.injEq] at he
    subst he
    refine ⟨by rw [List.length_set, h.length], fun j f v hf hv => ?_⟩
    rw [List.getElem?_set] at hv
    split_ifs at hv with hij
    · -- the slot of the field itself, whose type the value has
      cases hv
      rw [field?_eq, hi, Option.bind_some, hij, hf] at hg
      cases hg
      exact htype
    · exact h.types j f v hf hv

theorem placeAll (h : m.SlotsFit slots) (hp : m.placeAll slots values = .ok slots') :
    m.SlotsFit slots' := by
  induction values generalizing slots with
  | nil =>
    cases hp
    exact h
  | cons p values ih =>
    rw [placeAll_cons, bind_eq_ok_iff] at hp
    obtain ⟨slots₁, hfirst, hrest⟩ := hp
    exact ih (h.place hfirst) hrest

/-- A field of the model has a slot, in which a value has the type of the field. -/
theorem exists_slot (h : m.SlotsFit slots) (hf : m.field? name = some f) :
    ∃ i slot, m.lookup name = .ok (i, f) ∧ m.fields[i]? = some f ∧ f.name = name ∧
      slots[i]? = some slot ∧ m.valueIn slots name = slot ∧
      (slot.getD (Value.default f.type)).hasType f.type = true := by
  have hindex := hf
  rw [field?_eq] at hindex
  obtain ⟨i, hi, hfi⟩ := Option.bind_eq_some_iff.1 hindex
  have hlt : i < slots.length := h.length ▸ lt_length_of_fieldIndex? hi
  have hslot : slots[i]? = some slots[i] := List.getElem?_eq_getElem hlt
  refine ⟨i, slots[i], ?_, hfi, name_of_field? hf, hslot, ?_, ?_⟩
  · simp only [lookup_eq, hf, hi, Option.getD_some]
  · rw [valueIn, hi, Option.bind_some, hslot, Option.join_some]
  · cases hv : slots[i] with
    | none => exact Value.hasType_default f.type
    | some v => exact h.types i f v hfi (hslot.trans (congrArg some hv))

end SlotsFit

end Model

/-! ### Containers -/

namespace Container

variable {m : Model} {field : String} {value : Value} {values : List (String × Value)}
  {c c' : Container}

theorem direction_of_create (h : create m = .ok c) : c.model.direction = .input := by
  obtain ⟨hd, rfl⟩ := create_eq_ok_iff.1 h
  exact hd

theorem direction_of_decode (h : decode m values = .ok c) : c.model.direction = .output := by
  obtain ⟨hd, slots, -, rfl⟩ := decode_eq_ok_iff.1 h
  exact hd

/-- The slots of the container fit its model. -/
def Fits (c : Container) : Prop := c.model.SlotsFit c.slots

theorem fits_of_create (h : create m = .ok c) : c.Fits := by
  obtain ⟨-, rfl⟩ := create_eq_ok_iff.1 h
  exact m.slotsFit_emptySlots

theorem fits_of_decode (h : decode m values = .ok c) : c.Fits := by
  obtain ⟨-, slots, hs, rfl⟩ := decode_eq_ok_iff.1 h
  exact m.slotsFit_emptySlots.placeAll hs

theorem Fits.set (h : c.Fits) (hs : c.set field value = .ok c') : c'.Fits := by
  obtain ⟨slots, hp, -, rfl⟩ := set_eq_ok_iff.1 hs
  exact Model.SlotsFit.place h hp

theorem Fits.of_sameContents (h : c.Fits) (hs : SameContents c c') : c'.Fits := by
  rw [Fits, hs.model, hs.slots]
  exact h

end Container

namespace Store

variable {s : Store} {handle other name : String} {n : ℕ} {c : Container} {f : FieldModel}
  {slot : Option Value} {d : String → Option Direction}

/-! ### All containers of a store -/

/-- Every step keeps the slots of all containers fitting. -/
theorem fits_step (h : ∀ n c, s.container? n = some c → c.Fits) (step : Step) :
    ∀ n c, (s.step step).value.2.container? n = some c → c.Fits := by
  intro n c' hc'
  cases provenance step hc' with
  | kept hc hsame => exact (h n _ hc).of_sameContents hsame
  | created _ hc hsame => exact (Container.fits_of_create hc).of_sameContents hsame
  | decoded _ hc hsame => exact (Container.fits_of_decode hc).of_sameContents hsame
  | written ht hs => exact (h n _ (target?_eq_some_iff.1 ht).2).set hs

theorem fits_after (steps : List Step) : ∀ n c, (after steps).container? n = some c → c.Fits := by
  induction steps using List.reverseRecOn with
  | nil => exact fun n c hc => nomatch hc
  | append_singleton steps step ih =>
    rw [after_concat]
    exact fits_step ih step

/-! ### Directions of handles -/

/-- What the handles are for after a step that has been answered: a handle that is made together with
its container is for filling it or for reading it, and a second handle is for the same as the first. -/
def Step.directions (d : String → Option Direction) (answer : Answer) :
    Step → String → Option Direction
  | .create handle _ => if answer.isCount then Function.update d handle (some .input) else d
  | .decode handle _ _ => if answer.isCount then Function.update d handle (some .output) else d
  | .retain handle second => if answer.isCount then Function.update d second (d handle) else d
  | .release handle | .drop handle => Function.update d handle none
  | _ => d

/-- What the handles are for after several steps. -/
def directionsFrom (s : Store) (d : String → Option Direction) :
    List Step → String → Option Direction
  | [] => d
  | step :: steps =>
    directionsFrom (s.step step).value.2 (step.directions d (s.step step).value.1) steps

/-- What the handles are for after several steps, beginning with nothing. -/
def directionsAfter (steps : List Step) : String → Option Direction :=
  directionsFrom empty (fun _ => none) steps

/-- The direction of the container of a handle. -/
def direction? (s : Store) (handle : String) : Option Direction :=
  (s.target? handle).map (·.2.model.direction)

theorem direction?_of_target (h : s.target? handle = some (n, c)) :
    s.direction? handle = some c.model.direction := by
  rw [direction?, h]
  rfl

theorem direction?_of_noHandle (h : s.number? handle = none) : s.direction? handle = none := by
  rw [direction?, target?, h]
  rfl

namespace Balanced

theorem exists_target (h : Balanced s []) (hn : s.number? handle = some n) :
    ∃ c, s.target? handle = some (n, c) := by
  have hm : n ∈ s.references ++ [] := List.mem_append_left _ (mem_references hn)
  obtain ⟨c, -, hc⟩ := h.exists_container hm
  exact ⟨c, target?_eq_some_iff.2 ⟨hn, hc⟩⟩

/-- A handle to a container that was alive before the step has the direction that it had. -/
theorem direction?_eq (h : Balanced s []) {step : Step}
    (hn : (s.step step).value.2.number? other = s.number? handle) :
    (s.step step).value.2.direction? other = s.direction? handle := by
  cases hs : s.number? handle with
  | none => rw [direction?_of_noHandle hs, direction?_of_noHandle (hn.trans hs)]
  | some n =>
    obtain ⟨c, ht⟩ := h.exists_target hs
    obtain ⟨c', ht'⟩ := (h.step step).exists_target (hn.trans hs)
    have hmodel : c'.model = c.model :=
      h.model_eq (target?_eq_some_iff.1 ht).2 (target?_eq_some_iff.1 ht').2
    rw [direction?_of_target ht, direction?_of_target ht', hmodel]

theorem direction?_step_of_enter (h : Balanced s []) {step : Step}
    (hstep : s.step step = s.enter handle (.ok c)) :
    (s.step step).value.2.direction? other =
      if other = handle then some c.model.direction else s.direction? other := by
  split_ifs with ho
  · rw [ho, hstep]
    exact direction?_of_target h.target?_enter
  · refine h.direction?_eq ?_
    rw [hstep]
    exact number?_assign.trans (if_neg ho)

theorem direction?_step_of_release (h : Balanced s []) {step : Step}
    (hstep : (s.step step).value.2 = (s.release handle).value.2) :
    (s.step step).value.2.direction? other =
      if other = handle then none else s.direction? other := by
  have hn : (s.step step).value.2.number? other =
      if other = handle then none else s.number? other := hstep ▸ number?_release
  split_ifs at hn ⊢ with ho
  · exact direction?_of_noHandle hn
  · exact h.direction?_eq hn

end Balanced

/-- Every handle is for what its container is for. -/
def Directed (s : Store) (d : String → Option Direction) : Prop :=
  ∀ handle, d handle = s.direction? handle

theorem Directed.enter (hd : Directed s d) (h : Balanced s []) {step : Step}
    {r : Except UsageError Container} {direction : Direction}
    (hstep : s.step step = s.enter handle r) (hr : ∀ c, r = .ok c → c.model.direction = direction) :
    Directed (s.step step).value.2
      (if (s.step step).value.1.isCount then Function.update d handle (some direction) else d) := by
  intro other
  cases r with
  | error e =>
    rw [hstep]
    exact hd other
  | ok c =>
    rw [h.direction?_step_of_enter hstep, hstep, ← hd other, hr c rfl]
    exact Function.update_apply ..

theorem Directed.retain {second : String} (hd : Directed s d) (h : Balanced s []) :
    Directed (s.step (.retain handle second)).value.2
      (if (s.step (.retain handle second)).value.1.isCount then
        Function.update d second (d handle) else d) := by
  intro other
  cases ht : s.target? handle with
  | none =>
    have hstep : s.step (.retain handle second) = ⟨(.noHandle handle, s), []⟩ := by
      rw [Store.step, Store.retain, ht]
      rfl
    rw [hstep]
    exact hd other
  | some t =>
    obtain ⟨number, c⟩ := t
    have hanswer : (s.step (.retain handle second)).value.1 = .count (c.count + 1) := by
      rw [Store.step, Store.retain, ht]
      rfl
    have hn : (s.step (.retain handle second)).value.2.number? other =
        if other = second then some number else s.number? other := by
      rw [Store.step, Store.retain, ht]
      exact number?_assign
    rw [hanswer]
    refine (Function.update_apply ..).trans ?_
    -- the second handle leads to the container of the first one
    split_ifs at hn ⊢ with ho
    · rw [hd handle]
      exact (h.direction?_eq (hn.trans (target?_eq_some_iff.1 ht).1.symm)).symm
    · rw [hd other]
      exact (h.direction?_eq hn).symm

theorem Directed.release (hd : Directed s d) (h : Balanced s []) {step : Step}
    (hstep : (s.step step).value.2 = (s.release handle).value.2) :
    Directed (s.step step).value.2 (Function.update d handle none) := by
  intro other
  rw [h.direction?_step_of_release hstep, ← hd other]
  exact Function.update_apply ..

theorem Directed.write {value : Value} (hd : Directed s d) (h : Balanced s []) :
    Directed (s.step (.set handle name value)).value.2 d := by
  intro other
  have hn : (s.write handle name value).2.number? other = s.number? other := by
    rcases write_cases s handle name value with he | ⟨number, c, slots, -, he⟩
    · rw [he]
    · rw [he]
      rfl
  have hkeep : (s.step (.set handle name value)).value.2.direction? other = s.direction? other :=
    h.direction?_eq hn
  exact (hd other).trans hkeep.symm

/-- Every step keeps track of what the handles are for. -/
theorem Directed.step (hd : Directed s d) (h : Balanced s []) (step : Step) :
    Directed (s.step step).value.2 (step.directions d (s.step step).value.1) := by
  cases step with
  | create handle m => exact hd.enter h rfl fun c hc => Container.direction_of_create hc
  | decode handle m values => exact hd.enter h rfl fun c hc => Container.direction_of_decode hc
  | retain handle second => exact hd.retain h
  | release handle | drop handle => exact hd.release h rfl
  | set handle field value => exact hd.write h
  | _ => exact hd

theorem Directed.run (hd : Directed s d) (h : Balanced s []) (steps : List Step) :
    Directed (run s steps).2 (directionsFrom s d steps) := by
  induction steps generalizing s d with
  | nil => exact hd
  | cons step steps ih => exact ih (hd.step h step) (h.step step)

theorem directed_after (steps : List Step) : Directed (after steps) (directionsAfter steps) :=
  Directed.run (fun _ => rfl) balanced_empty steps

/-! ### What is read -/

/-- **Containers hold what their models say.**  After any steps, every container that is alive has a
slot for each field of its model, and the values that are present have the types of their fields.  Its
handles are for what the model is for.  A name that is not that of a field is refused by every reading;
otherwise there is a slot of the field, the readings agree on what is in it, and the value that is read,
which is the default of the type if the field is not present, has the type of the field. -/
theorem typed_containers (steps : List Step) (n : ℕ) (c : Container)
    (hc : (after steps).container? n = some c) :
    c.slots.length = c.model.fields.length ∧
    (∀ (i : ℕ) (f : FieldModel) (v : Value), c.model.fields[i]? = some f →
      c.slots[i]? = some (some v) → v.hasType f.type = true) ∧
    ∀ handle, (after steps).number? handle = some n →
      directionsAfter steps handle = some c.model.direction ∧
      ∀ name,
        let answer := fun step => ((after steps).step step).value.1
        let unknown := Answer.refused (.unknownField c.model.fullName name)
        (name ∉ c.model.fields.map (·.name) ∧ answer (.get handle name) = unknown ∧
          answer (.isPresent handle name) = unknown ∧
          answer (.getOrDefault handle name) = unknown) ∨
        ∃ i f slot, c.model.lookup name = .ok (i, f) ∧ c.model.fields[i]? = some f ∧
          f.name = name ∧ c.slots[i]? = some slot ∧
          answer (.get handle name) = .value slot ∧
          answer (.isPresent handle name) = .flag slot.isSome ∧
          answer (.getOrDefault handle name) =
            .presence slot.isSome (slot.getD (Value.default f.type)) ∧
          (slot.getD (Value.default f.type)).hasType f.type = true := by
  have hfits := fits_after steps n c hc
  refine ⟨hfits.length, hfits.types, fun handle hn => ?_⟩
  have ht : (after steps).target? handle = some (n, c) := target?_eq_some_iff.2 ⟨hn, hc⟩
  refine ⟨(directed_after steps handle).trans (direction?_of_target ht), fun name => ?_⟩
  cases hf : c.model.field? name with
  | none =>
    have hno : name ∉ c.model.fields.map (·.name) := by simpa [Model.field?] using hf
    exact .inl ⟨hno, reads_of_unknown ht hf⟩
  | some f =>
    obtain ⟨i, slot, hl, hfi, hname, hslot, hv, htype⟩ := hfits.exists_slot hf
    obtain ⟨hget, hpresent, hdefault⟩ := reads_of_field? ht hf hv
    exact .inr ⟨i, f, slot, hl, hfi, hname, hslot, hget, hpresent, hdefault, htype⟩

/-- A number and a struct. -/
def pairFields : List Field :=
  [⟨"Foo", ⟨1⟩, "guint8", none, [], none⟩,
    ⟨"Bar", ⟨2⟩, "struct", none, [⟨"Name", "string", [], none⟩], none⟩]

/-- The model of these fields. -/
def pairModel : Model where
  fullName := "Msg A Input"
  direction := .input
  declared := some
    [⟨"Foo", ⟨1⟩, "MSG_A_INPUT_TLV_FOO", "guint8", .scalar .u8, none, "msg_a_input_get_foo",
        some "msg_a_input_set_foo"⟩,
      ⟨"Bar", ⟨2⟩, "MSG_A_INPUT_TLV_BAR", "struct", .struct [("Name", .string)], none,
        "msg_a_input_get_bar", some "msg_a_input_set_bar"⟩]

theorem build_pairFields : Model.build "Msg A Input" .input (some pairFields) = .ok pairModel := rfl

/-- The number is filled in, and the container gets a second handle. -/
def pairSteps : List Step :=
  [.create "a" pairModel, .set "a" "Foo" (.u8 7), .retain "a" "b"]

theorem typed_containers_pairSteps :
    Model.build "Msg A Input" .input (some pairFields) = .ok pairModel ∧
      (after pairSteps).container? 0 = some ⟨pairModel, 2, [some (.u8 7), none]⟩ ∧
      (after pairSteps).number? "b" = some 0 ∧ directionsAfter pairSteps "b" = some .input ∧
      ∃ v, ((after pairSteps).step (.getOrDefault "b" "Bar")).value.1 = .presence false v ∧
        v.hasType (.struct [("Name", .string)]) = true := by
  have hc : (after pairSteps).container? 0 = some ⟨pairModel, 2, [some (.u8 7), none]⟩ := rfl
  obtain ⟨-, -, hhandles⟩ := typed_containers pairSteps 0 _ hc
  obtain ⟨hdirection, hreads⟩ := hhandles "b" rfl
  refine ⟨build_pairFields, hc, rfl, hdirection, ?_⟩
  rcases hreads "Bar" with ⟨hno, -⟩ | ⟨i, f, slot, hl, -, -, hslot, -, -, hdefault, htype⟩
  · exact absurd (by decide) hno
  · -- the second slot is empty
    cases hl
    cases hslot
    exact ⟨_, hdefault, htype⟩

end Store

end TlvSchema
