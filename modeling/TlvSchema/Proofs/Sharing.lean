import TlvSchema.Proofs.SlotTypes

/-!
# Writing and sharing

A container is written through its only handle, and otherwise not at all.  A write that is refused leaves
the store as it was, and one that is done changes the slot of one field.  Who holds a container together
with somebody else can therefore rely on what is in it: as long as it is shared, nothing that is read of
its fields changes.

* `Balanced.handleCount_eq_one_iff` — a container has one handle if there is no other one
* `readings` — what the readings of a field answer
* `Write` — what a write changes that is done
* `step_set_of_fits`, `step_set_of_shared`, `step_set_of_misfit` — what a write does to the store
* `Balanced.step_set_done_iff` — when it is done
* `sameContents_while_shared` — a shared container keeps its contents
* `writes_and_sharing` — all of it for the store after any steps
-/

namespace TlvSchema

/-! ### Writing a container -/

namespace Container

variable {c c' : Container} {p : String × Value}

theorem set_of_fits (h : c.model.misfit? p = none) (hc : c.count = 1) :
    c.set p.1 p.2 =
      .ok { c with slots := c.slots.set ((c.model.fieldIndex? p.1).getD 0) (some p.2) } :=
  set_of_place hc (Model.place_of_fits h)

theorem set_of_shared (h : c.model.misfit? p = none) (hc : c.count ≠ 1) :
    c.set p.1 p.2 = .error (.shared c.model.fullName c.count) := by
  rw [set, Model.place_of_fits h]
  exact if_neg hc

end Container

namespace Store

variable {s s' : Store} {handle other field name : String} {value : Value} {n n' : ℕ}
  {c c' : Container} {pending : List ℕ}

/-! ### Handles of one container -/

/-- No other handle leads to the container with a number. -/
def IsOnly (s : Store) (handle : String) (n : ℕ) : Prop :=
  ∀ other, s.number? other = some n → other = handle

/-- Two handles lead to the container with a number. -/
def IsShared (s : Store) (n : ℕ) : Prop :=
  ∃ a b, a ≠ b ∧ s.number? a = some n ∧ s.number? b = some n

namespace Balanced

theorem mem_references_iff (h : Balanced s pending) :
    n ∈ s.references ↔ ∃ handle, s.number? handle = some n := by
  constructor
  · intro hm
    obtain ⟨⟨handle, _⟩, he, rfl⟩ := List.mem_map.1 hm
    exact ⟨handle, (lookup_eq_some_iff_mem h.names).2 he⟩
  · exact fun ⟨handle, hn⟩ => mem_references hn

theorem handleCount_eq_one_iff (h : Balanced s []) (hn : s.number? handle = some n) :
    s.handleCount n = 1 ↔ s.IsOnly handle n := by
  rw [h.handleCount_eq hn, Nat.add_eq_right, handleCount, List.count_eq_zero,
    (h.forget hn).mem_references_iff]
  constructor
  · intro hno other ho
    by_contra hne
    exact hno ⟨other, by rw [number?_forget, if_neg hne, ho]⟩
  · rintro honly ⟨other, ho⟩
    rw [number?_forget] at ho
    split_ifs at ho with he
    exact he (honly other ho)

theorem count_eq_one_iff (h : Balanced s []) (ht : s.target? handle = some (n, c)) :
    c.count = 1 ↔ s.IsOnly handle n := by
  obtain ⟨hn, hc⟩ := target?_eq_some_iff.1 ht
  rw [h.count_eq_handleCount hc, h.handleCount_eq_one_iff hn]

end Balanced

/-! ### Readings -/

/-- What the readings of a field answer, and the name of the container. -/
def readings (s : Store) (handle field : String) : List Answer :=
  [.get handle field, .getOrDefault handle field, .isPresent handle field, .name handle].map
    fun step => (s.step step).value.1

theorem readings_of_target?_eq (h : s'.target? handle = s.target? handle) :
    s'.readings handle field = s.readings handle field := by
  simp only [readings, step, Logged.value_pure, read, List.map_cons, List.map_nil, h]

/-- Containers with one model and the same value in a field read the same. -/
theorem readings_eq (ht : s.target? handle = some (n, c)) (ht' : s'.target? other = some (n', c'))
    (hm : c'.model = c.model)
    (hv : c.model.valueIn c'.slots field = c.model.valueIn c.slots field) :
    s'.readings other field = s.readings handle field := by
  simp only [readings, step, Logged.value_pure, read_of_target ht, read_of_target ht',
    List.map_cons, List.map_nil, Container.get_eq, Container.getOrDefault_eq, Container.isPresent_eq,
    hm, hv]

/-! ### Writes -/

/-- What a write changes that is done: the value of the field, and nothing else. -/
structure Write (s s' : Store) (handle field : String) (value : Value) : Prop where
  /-- The field has the value. -/
  get : (s'.step (.get handle field)).value.1 = .value (some value)
  /-- The field is present. -/
  isPresent : (s'.step (.isPresent handle field)).value.1 = .flag true
  /-- The default is not read. -/
  getOrDefault : (s'.step (.getOrDefault handle field)).value.1 = .presence true value
  /-- Everything else reads as before. -/
  readings : ∀ other name, (other, name) ≠ (handle, field) →
    s'.readings other name = s.readings other name
  /-- Every container has its model and its count. -/
  counts : ∀ k, (s'.container? k).map (fun c => (c.model, c.count)) =
    (s.container? k).map fun c => (c.model, c.count)
  /-- The containers of other handles are the same. -/
  others : ∀ k, s.number? handle ≠ some k → s'.container? k = s.container? k
  /-- The handles are the same. -/
  handles : s'.handles = s.handles
  /-- So is the number of the next container. -/
  next : s'.next = s.next

theorem target?_replace_of_ne (h : s.number? other ≠ some n) (c' : Container) :
    (s.replace n c').target? other = s.target? other := by
  have hn : (s.replace n c').number? other = s.number? other := rfl
  rw [target?, target?, hn]
  cases ho : s.number? other with
  | none => rfl
  | some k =>
    have hk : (s.replace n c').container? k = s.container? k := by
      rw [container?_replace, if_neg fun he : k = n => h (he ▸ ho)]
    exact congrArg (· >>= fun container => some (k, container)) hk

theorem step_set_of_fits (ht : s.target? handle = some (n, c)) (hfits : c.Fits)
    (hp : c.model.misfit? (field, value) = none) (hc : c.count = 1) (honly : s.IsOnly handle n) :
    ∃ s', s.step (.set handle field value) = ⟨(.done, s'), []⟩ ∧ Write s s' handle field value := by
  obtain ⟨g, hg, -⟩ := Model.misfit?_eq_none_iff.1 hp
  obtain ⟨hn, hcontainer⟩ := target?_eq_some_iff.1 ht
  let slots := c.slots.set ((c.model.fieldIndex? field).getD 0) (some value)
  have hv : ∀ name, c.model.valueIn slots name =
      if name = field then some value else c.model.valueIn c.slots name := fun name =>
    @Model.valueIn_set c.model c.slots (field, value) name hfits.length hp
  have ht' := target?_replace ht { c with slots }
  have hset : c.set field value = .ok { c with slots } := Container.set_of_fits hp hc
  obtain ⟨hget, hpresent, hdefault⟩ := reads_of_field? ht' hg ((hv field).trans (if_pos rfl))
  refine ⟨s.replace n { c with slots }, step_set_of_ok ht hset, hget, hpresent, hdefault, ?_, ?_, ?_,
    rfl, rfl⟩
  · intro other name hne
    by_cases ho : s.number? other = some n
    · -- the handle is the only one of the container, so that it is another field
      have hother : other = handle := honly other ho
      have hname : name ≠ field := fun he => hne (by rw [hother, he])
      rw [hother]
      exact readings_eq ht ht' rfl ((hv name).trans (if_neg hname))
    · exact readings_of_target?_eq (target?_replace_of_ne ho _)
  · intro k
    rw [container?_replace]
    split_ifs with hk
    · rw [hk, hcontainer]
      rfl
    · rfl
  · intro k hk
    rw [container?_replace, if_neg fun he : k = n => hk (he ▸ hn)]

theorem step_set_of_shared (ht : s.target? handle = some (n, c))
    (hp : c.model.misfit? (field, value) = none) (hc : c.count ≠ 1) :
    s.step (.set handle field value) =
      ⟨(.refused (.shared c.model.fullName c.count), s), []⟩ :=
  step_set_of_error ht (Container.set_of_shared hp hc)

theorem step_set_of_misfit {e : UsageError} (ht : s.target? handle = some (n, c))
    (hp : c.model.misfit? (field, value) = some e) :
    s.step (.set handle field value) = ⟨(.refused e, s), []⟩ :=
  step_set_of_error ht (Container.set_of_misfit hp)

/-- A write is done if the value fits and nobody else has a handle. -/
theorem Balanced.step_set_done_iff (h : Balanced s []) (hfits : c.Fits)
    (ht : s.target? handle = some (n, c)) :
    (s.step (.set handle field value)).value.1 = .done ↔
      c.model.misfit? (field, value) = none ∧ s.IsOnly handle n := by
  rw [← h.count_eq_one_iff ht]
  cases hp : c.model.misfit? (field, value) with
  | some e => simp [step_set_of_misfit ht hp]
  | none =>
    by_cases hc : c.count = 1
    · obtain ⟨s', hstep, -⟩ := step_set_of_fits ht hfits hp hc ((h.count_eq_one_iff ht).1 hc)
      simp [hstep, hc]
    · simp [step_set_of_shared ht hp hc, hc]

/-! ### Shared containers -/

/-- A container that is shared keeps its contents in a step. -/
theorem Balanced.sameContents_of_shared (h : Balanced s []) (hs : s.IsShared n) {step : Step}
    (hc : s.container? n = some c) (hc' : (s.step step).value.2.container? n = some c') :
    c.SameContents c' := by
  rcases h.contents hc hc' with hsame | ⟨handle, field, value, -, ht, hset⟩
  · exact hsame
  · -- it would have been written through its only handle
    obtain ⟨slots, -, hcount, -⟩ := Container.set_eq_ok_iff.1 hset
    have honly := (h.count_eq_one_iff ht).1 hcount
    obtain ⟨a, b, hab, ha, hb⟩ := hs
    exact absurd ((honly a ha).trans (honly b hb).symm) hab

/-- A container that stays shared keeps its contents. -/
theorem sameContents_while_shared {steps later : List Step} (hc : (after steps).container? n = some c)
    (hs : ∀ k < later.length, (after (steps ++ later.take k)).IsShared n)
    (hc' : (after (steps ++ later)).container? n = some c') : c.SameContents c' := by
  induction later using List.reverseRecOn generalizing c' with
  | nil =>
    rw [List.append_nil, hc, Option.some.injEq] at hc'
    exact hc' ▸ .refl c
  | append_singleton later step ih =>
    have htake : ∀ k ≤ later.length, (later ++ [step]).take k = later.take k := fun k hk =>
      List.take_append_of_le_length hk
    have hbefore : ∀ k < later.length, (after (steps ++ later.take k)).IsShared n := by
      intro k hk
      rw [← htake k hk.le]
      exact hs k (by rw [List.length_append]; omega)
    have hlast : (after (steps ++ later)).IsShared n := by
      have hk := hs later.length (by simp)
      rwa [htake _ le_rfl, List.take_length] at hk
    -- a container with a handle is alive
    have ⟨a, _, _, ha, _⟩ := hlast
    obtain ⟨d, ht⟩ := (balanced_after (steps ++ later)).exists_target ha
    have hd := (target?_eq_some_iff.1 ht).2
    rw [← List.append_assoc, after_concat] at hc'
    exact (ih hbefore hd).trans
      ((balanced_after (steps ++ later)).sameContents_of_shared hlast hd hc')

/-- **Only the only handle writes.**  After any steps, a write succeeds if and only if there is a field
of the name, the value has its type and the handle is the only one of its container.  Otherwise it is
refused, for the first of these that fails, and the store is as it was.  A write that succeeds disposes
nothing and changes the value of the field and nothing else.  So whatever later steps do, every field of
the container reads the same through all its handles as long as there are two. -/
theorem writes_and_sharing (steps : List Step) (handle field : String) (value : Value) (n : ℕ)
    (c : Container) (ht : (after steps).target? handle = some (n, c)) :
    let s := after steps
    let result := s.step (.set handle field value)
    (result.value.1 = .done ↔
      (∃ g, c.model.field? field = some g ∧ value.hasType g.type = true) ∧ s.IsOnly handle n) ∧
    (c.model.field? field = none →
      result = ⟨(.refused (.unknownField c.model.fullName field), s), []⟩) ∧
    (∀ g, c.model.field? field = some g → value.hasType g.type = false →
      result = ⟨(.refused (.typeMismatch c.model.fullName field g.type.display), s), []⟩) ∧
    (∀ g, c.model.field? field = some g → value.hasType g.type = true → ¬ s.IsOnly handle n →
      result = ⟨(.refused (.shared c.model.fullName c.count), s), []⟩) ∧
    (result.value.1 = .done → result.events = [] ∧ Write s result.value.2 handle field value) ∧
    ∀ later, (∀ k < later.length, (after (steps ++ later.take k)).IsShared n) →
      ∀ other, (after (steps ++ later)).number? other = some n →
        ∀ name, (after (steps ++ later)).readings other name = s.readings handle name := by
  intro s result
  have hb : Balanced s [] := balanced_after steps
  have hc := (target?_eq_some_iff.1 ht).2
  have hfits := fits_after steps n c hc
  have hcount := hb.count_eq_one_iff ht
  have hdone : result.value.1 = .done ↔
      c.model.misfit? (field, value) = none ∧ s.IsOnly handle n := hb.step_set_done_iff hfits ht
  refine ⟨hdone.trans (and_congr_left' Model.misfit?_eq_none_iff), fun hf => ?_,
    fun g hg htype => ?_, fun g hg htype hno => ?_, fun hd => ?_, fun later hs other ho name => ?_⟩
  · exact step_set_of_misfit ht (by simp only [Model.misfit?, hf])
  · exact step_set_of_misfit ht (by simp [Model.misfit?, hg, htype])
  · have hp : c.model.misfit? (field, value) = none :=
      Model.misfit?_eq_none_iff.2 ⟨g, hg, htype⟩
    exact step_set_of_shared ht hp (mt hcount.1 hno)
  · obtain ⟨hp, honly⟩ := hdone.1 hd
    obtain ⟨s', hstep, hwrite⟩ := step_set_of_fits ht hfits hp (hcount.2 honly) honly
    rw [show result = ⟨(.done, s'), []⟩ from hstep]
    exact ⟨rfl, hwrite⟩
  · obtain ⟨c', ht'⟩ := (balanced_after (steps ++ later)).exists_target ho
    have hsame := sameContents_while_shared hc hs (target?_eq_some_iff.1 ht').2
    exact readings_eq ht ht' hsame.model (by rw [hsame.slots])

theorem writes_and_sharing_pairSteps :
    Model.build "Msg A Input" .input (some pairFields) = .ok pairModel ∧
      (after pairSteps).target? "a" = some (0, ⟨pairModel, 2, [some (.u8 7), none]⟩) ∧
      (after pairSteps).step (.set "a" "Foo" (.u8 9)) =
        ⟨(.refused (.shared "Msg A Input" 2), after pairSteps), []⟩ ∧
      (after (pairSteps ++ [Step.set "b" "Foo" (.u8 9)])).readings "a" "Foo" =
        (after pairSteps).readings "a" "Foo" := by
  have ht : (after pairSteps).target? "a" =
      some (0, ⟨pairModel, 2, [some (.u8 7), none]⟩) := rfl
  obtain ⟨-, -, -, hrefused, -, hconstant⟩ :=
    writes_and_sharing pairSteps "a" "Foo" (.u8 9) 0 _ ht
  refine ⟨build_pairFields, ht, ?_, ?_⟩
  · -- the other handle is `b`
    exact hrefused _ rfl rfl fun honly => absurd (honly "b" rfl) (by decide)
  · have ha : (after (pairSteps ++ [Step.set "b" "Foo" (.u8 9)])).number? "a" = some 0 := by
      decide +kernel
    refine hconstant [.set "b" "Foo" (.u8 9)] (fun k hk => ?_) "a" ha "Foo"
    obtain rfl : k = 0 := by simpa using hk
    exact ⟨"a", "b", by decide, rfl, rfl⟩

end Store

end TlvSchema
