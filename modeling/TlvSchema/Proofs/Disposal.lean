import TlvSchema.Proofs.Accessors
import TlvSchema.Proofs.SlotTypes

/-!
# Disposal

A container is disposed once, in the step that takes its last handle, and the fields that are present at
that moment are released with it:

* `presentFields` — the fields that are read as present
* `Fits.countP_slots` — there are as many of them as slots that hold a value, since every container that is
  alive has one slot for each field
* `fits_disposals` — the containers that are disposed during a run still fit their models
* `lifetimes` — all of it for a run that begins with nothing and ends with nothing
-/

namespace TlvSchema

/-! ### Present fields -/

namespace Container

variable {c : Container}

/-- The fields that are read as present. -/
def presentFields (c : Container) : List FieldModel :=
  c.model.fields.filter fun f => c.isPresent f.name = .ok true

theorem isPresent_eq_true_iff {f : FieldModel} (hf : f ∈ c.model.fields) :
    c.isPresent f.name = .ok true ↔ (c.model.valueIn c.slots f.name).isSome = true := by
  have hs : (c.model.field? f.name).isSome = true := List.find?_isSome.2 ⟨f, hf, by simp⟩
  obtain ⟨g, hg⟩ := Option.isSome_iff_exists.1 hs
  rw [isPresent_eq, hg, Except.ok.injEq]

/-- The slots hold what is read under the names of the fields, if no two fields have one name. -/
theorem Fits.slots_eq (h : c.Fits) (hn : (c.model.fields.map (·.name)).Nodup) :
    c.model.fields.map (fun f => c.model.valueIn c.slots f.name) = c.slots := by
  refine List.ext_getElem (by rw [List.length_map, h.length]) fun i hi hi' => ?_
  have hlt : i < c.model.fields.length := h.length ▸ hi'
  have hindex : c.model.fieldIndex? c.model.fields[i].name = some i :=
    (findIdx?_key_eq_some_iff hn).2 ⟨hlt, rfl⟩
  rw [List.getElem_map, Model.valueIn, hindex, Option.bind_some, List.getElem?_eq_getElem hi',
    Option.join_some]

theorem Fits.countP_slots (h : c.Fits) (hn : (c.model.fields.map (·.name)).Nodup) :
    c.slots.countP Option.isSome = c.presentFields.length := by
  rw [presentFields, ← List.countP_eq_length_filter]
  calc c.slots.countP Option.isSome
      = (c.model.fields.map fun f => c.model.valueIn c.slots f.name).countP Option.isSome := by
        rw [h.slots_eq hn]
    _ = c.model.fields.countP fun f => c.isPresent f.name = .ok true := by
        rw [List.countP_map]
        refine List.countP_congr fun f hf => ?_
        rw [decide_eq_true_iff, isPresent_eq_true_iff hf]
        rfl

end Container

namespace Store

variable {s : Store}

/-! ### Disposed containers -/

theorem fits_disposals (hb : Balanced s []) (h : ∀ n c, s.container? n = some c → c.Fits)
    (steps : List Step) : ∀ e ∈ disposals s steps, e.2.Fits := by
  induction steps generalizing s with
  | nil => exact fun e he => absurd he List.not_mem_nil
  | cons step steps ih =>
    intro e he
    rw [disposals, List.mem_append] at he
    rcases he with he | he
    · -- it was alive before the step
      exact h e.1 e.2 (hb.container?_eq_some_iff.2 (List.mem_of_mem_filter he))
    · exact ih (hb.step step) (fits_step h step) e he

/-- If no two fields of a container have one name, then what is logged when it is disposed is how many of
its fields are read as present. -/
theorem disposal_eq {steps : List Step} {e : Nat × Container} (he : e ∈ disposals empty steps)
    (hn : (e.2.model.fields.map (·.name)).Nodup) :
    disposal e = .disposed e.2.model.fullName e.2.presentFields.length := by
  have hfits := fits_disposals balanced_empty (fun n c hc => nomatch hc) steps e he
  rw [disposal, hfits.countP_slots hn]

theorem disposal_of_build {steps : List Step} {e : Nat × Container} (he : e ∈ disposals empty steps)
    {fullName : String} {direction : Direction} {fields : Option (List Field)}
    (h : Model.build fullName direction fields = .ok e.2.model) :
    disposal e = .disposed fullName e.2.presentFields.length := by
  obtain ⟨hname, -, -, hbuilt⟩ := Model.of_build h
  rw [disposal_eq he hbuilt.nodup_names, hname]

/-! ### Runs -/

/-- **Containers live as long as their handles.**  After any steps, every container that is alive
counts its handles, of which there are some, and a release answers yes if and only if it gives the
last one back.  The events of one more step are the disposals of the containers that have no handle
any more; they tell how many values are released, which for a model that was built is how many of the
fields are read as present.  Over all steps, every container that was made is disposed once or is still alive, and
with the handles that are left given back, every one is disposed once. -/
theorem lifetimes (steps : List Step) :
    (∀ n c, (after steps).container? n = some c →
      c.count = (after steps).handleCount n ∧ 1 ≤ c.count) ∧
    (∀ handle n, (after steps).number? handle = some n →
      ((after steps).container? n).isSome ∧
        ((after steps).step (.release handle)).value.1 =
          .flag (decide ((after steps).handleCount n = 1))) ∧
    (∀ step, ((after steps).step step).events =
        ((after steps).gone (after (steps ++ [step]))).map disposal ∧
      ∀ n, n ∈ ((after steps).gone (after (steps ++ [step]))).map Prod.fst ↔
        0 < (after steps).handleCount n ∧ (after (steps ++ [step])).handleCount n = 0) ∧
    (∀ later, ∀ e ∈ disposals empty (steps ++ later), ∀ fullName direction fields,
      Model.build fullName direction fields = .ok e.2.model →
        disposal e = .disposed fullName e.2.presentFields.length) ∧
    logged empty steps = (disposals empty steps).map disposal ∧
    ((disposals empty steps).map Prod.fst ++ (after steps).numbers).Perm
      (List.range (creations empty steps)) ∧
    ((after steps).close.value.containers = [] ∧ (after steps).close.value.handles = []) ∧
    ((disposals empty (steps ++ (after steps).closing)).map Prod.fst).Perm
      (List.range (creations empty steps)) ∧
    logged empty steps ++ (after steps).close.events =
      (disposals empty (steps ++ (after steps).closing)).map disposal ∧
    (logged empty steps ++ (after steps).close.events).length = creations empty steps := by
  have hb := balanced_after steps
  have hclose : logged empty steps ++ (after steps).close.events =
      (disposals empty (steps ++ (after steps).closing)).map disposal := by
    rw [close, (releaseAll_eq_run _ _).2, ← closing, after, ← logged_append, ← after,
      balanced_empty.logged_eq]
  refine ⟨fun n c hc => ?_, fun handle n hh => ?_, fun step => ?_,
    fun _ _ he _ _ _ hbuild => disposal_of_build he hbuild, balanced_empty.logged_eq steps, ?_,
    ⟨hb.containers_close, handles_close _⟩, disposals_closing steps, hclose, ?_⟩
  · have hcount := hb.count_eq_handleCount hc
    have hpos := hb.mem_numbers_iff.1 (List.mem_map_of_mem (hb.container?_eq_some_iff.1 hc))
    exact ⟨hcount, hcount ▸ hpos⟩
  · have hm : n ∈ (after steps).references ++ [] := by simpa using mem_references hh
    obtain ⟨c, -, hc⟩ := hb.exists_container hm
    exact ⟨hc ▸ rfl, hb.release_answer hh⟩
  · have hb' := balanced_after (steps ++ [step])
    refine ⟨?_, fun n => ?_⟩
    · rw [after_concat]
      exact (hb.step_change step).events
    · rw [mem_gone_numbers, hb.mem_numbers_iff, hb'.mem_numbers_iff, Nat.not_lt, Nat.le_zero]
  · rw [List.range_eq_range']
    exact balanced_empty.disposals_perm steps
  · have hlen := (disposals_closing steps).length_eq
    rw [List.length_map, List.length_range] at hlen
    rw [hclose, List.length_map, hlen]

/-- A container with one field that is present gets a second handle and loses the first one. -/
def sharedSteps : List Step := pairSteps ++ [.drop "a"]

theorem lifetimes_sharedSteps :
    Model.build "Msg A Input" .input (some pairFields) = .ok pairModel ∧
      (after sharedSteps).number? "b" = some 0 ∧
      (after sharedSteps).container? 0 = some ⟨pairModel, 1, [some (.u8 7), none]⟩ ∧
      (after sharedSteps).handleCount 0 = 1 ∧
      ((after sharedSteps).step (.release "b")).value.1 = .flag true ∧
      ((after sharedSteps).step (.release "b")).events = [.disposed "Msg A Input" 1] ∧
      (Container.presentFields ⟨pairModel, 1, [some (.u8 7), none]⟩).map (·.name) = ["Foo"] := by
  obtain ⟨hcount, hrelease, hevents, hpresent, -⟩ := lifetimes sharedSteps
  have hc : (after sharedSteps).container? 0 = some ⟨pairModel, 1, [some (.u8 7), none]⟩ := rfl
  have hone : (after sharedSteps).handleCount 0 = 1 := (hcount 0 _ hc).1.symm
  have hgone : (after sharedSteps).gone (after (sharedSteps ++ [Step.release "b"])) =
      [(0, ⟨pairModel, 1, [some (.u8 7), none]⟩)] := by rfl
  have hdisposed : disposals empty (sharedSteps ++ [.release "b"]) =
      [(0, ⟨pairModel, 1, [some (.u8 7), none]⟩)] := by rfl
  have hdisposal := hpresent [.release "b"] _ (hdisposed ▸ List.mem_singleton_self _) _ _ _
    build_pairFields
  refine ⟨build_pairFields, rfl, hc, hone, ?_, ?_, rfl⟩
  · rw [(hrelease "b" 0 rfl).2, hone]
    rfl
  · rw [(hevents (.release "b")).1, hgone, List.map_singleton, hdisposal]
    rfl

end Store

end TlvSchema
