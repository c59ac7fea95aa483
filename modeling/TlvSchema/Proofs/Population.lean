import TlvSchema.Proofs.Lifetime
import TlvSchema.Proofs.Slots

/-!
# Two ways of filling a container

A container is filled either all at once, when it is decoded, or field by field by its only handle.
Both ways put the same values into the same slots, and both stop at the first value that does not fit.

* `container?_replace`, `container?_release_of_ne` — what a change of one container does to the others
* `number?_release`, `number?_assign` — where the handles lead after a change of one handle
* `target?_enter` — a handle leads to the container that it was made for
* `step_set_of_ok`, `step_set_of_error` — a write through a handle is a write to its container
* `run_sets_of_fits`, `run_sets_of_misfit` — filling a container field by field
* `reads_of_alike`, `reads_of_field?`, `reads_of_unknown` — what is read through a handle
* `decode_eq_create_set` — the two ways agree
-/

namespace TlvSchema

/-! ### Containers -/

namespace Container

variable {m : Model} {c : Container} {p : String × Value} {values : List (String × Value)}
  {e : UsageError}

theorem create_of_input (h : m.direction = .input) : create m = .ok ⟨m, 1, m.emptySlots⟩ := by
  rw [create, Model.checkDirection, if_pos h]
  rfl

theorem decode_of_output (h : m.direction = .output) :
    decode m values = (⟨m, 1, ·⟩) <$> m.placeAll m.emptySlots values := by
  rw [decode, Model.checkDirection, if_pos h]
  cases m.placeAll m.emptySlots values <;> rfl

theorem set_of_place {slots : List (Option Value)} (hc : c.count = 1)
    (hs : c.model.place c.slots p.1 p.2 = .ok slots) : c.set p.1 p.2 = .ok { c with slots } := by
  rw [set, hs]
  exact if_pos hc

theorem set_of_misfit (h : c.model.misfit? p = some e) : c.set p.1 p.2 = .error e := by
  rw [set, Model.place_of_misfit h]
  rfl

end Container

namespace Store

variable {s : Store} {handle other field name : String} {number k : ℕ} {c c' : Container} {m : Model}
  {f : FieldModel} {value : Value} {slot : Option Value} {e : UsageError}
  {values : List (String × Value)} {pending : List ℕ}

/-! ### Changes of one container -/

theorem container?_replace :
    (s.replace number c).container? k =
      if k = number then (s.container? k).map fun _ => c else s.container? k := by
  simp only [container?, replace]
  induction s.containers with
  | nil => simp
  | cons e l ih =>
    obtain ⟨n, d⟩ := e
    by_cases hn : n = number
    · subst hn
      by_cases hk : k = n
      · simp [hk]
      · simpa [List.lookup_cons, hk, beq_eq_false_iff_ne.2 hk] using ih
    · by_cases hk : k = n
      · simp [hk, hn]
      · simpa [List.lookup_cons, hn, beq_eq_false_iff_ne.2 hk] using ih

theorem container?_remove :
    (s.remove number).container? k = if k = number then none else s.container? k :=
  lookup_filter_ne s.containers number k

theorem container?_giveBack_of_ne (hk : k ≠ number) :
    (s.giveBack number).value.2.container? k = s.container? k := by
  unfold giveBack
  cases s.container? number with
  | none => rfl
  | some c =>
    by_cases hc : c.count = 1
    · simp only [hc, if_true, Logged.value_bind, Logged.value_pure]
      rw [container?_remove, if_neg hk]
    · simp only [hc, if_false, Logged.value_pure]
      rw [container?_replace, if_neg hk]

/-- Giving a handle back leaves the containers of the other handles as they are. -/
theorem container?_release_of_ne (h : s.number? handle ≠ some k) :
    (s.release handle).value.2.container? k = s.container? k := by
  unfold release
  cases hn : s.number? handle with
  | none => rfl
  | some number =>
    have hk : k ≠ number := fun he => h (he ▸ hn)
    exact container?_giveBack_of_ne hk

/-! ### The container of a handle -/

theorem number?_forget :
    (s.forget handle).number? other = if other = handle then none else s.number? other :=
  lookup_filter_ne s.handles handle other

theorem number?_release :
    (s.release handle).value.2.number? other = if other = handle then none else s.number? other := by
  rw [number?, handles_release]
  exact number?_forget

theorem number?_assign :
    (s.assign handle number).value.number? other =
      if other = handle then some number else s.number? other := by
  have h : (s.assign handle number).value.number? other =
      ((s.release handle).value.2.number? other).or ([(handle, number)].lookup other) :=
    List.lookup_append
  rw [h, number?_release]
  by_cases ho : other = handle
  · simp [ho]
  · simp [ho, List.lookup_cons, beq_eq_false_iff_ne.2 ho]

theorem target?_replace (h : s.target? handle = some (number, c)) (c' : Container) :
    (s.replace number c').target? handle = some (number, c') := by
  obtain ⟨hn, hc⟩ := target?_eq_some_iff.1 h
  refine target?_eq_some_iff.2 ⟨hn, ?_⟩
  rw [container?_replace, if_pos rfl, hc]
  rfl

/-- A new container is reached through its handle. -/
theorem Balanced.target?_enter (h : Balanced s []) :
    (s.enter handle (.ok c)).value.2.target? handle = some (s.next, c) := by
  have hfresh : s.next ∉ s.numbers := fun hm => Nat.lt_irrefl _ (h.fresh _ hm)
  have hnew : (s.add c).container? s.next = some c := by
    have hno : s.containers.lookup s.next = none := by
      rw [List.lookup_eq_none_iff]
      intro e he
      have hne : s.next ≠ e.1 := fun hx => hfresh (hx ▸ List.mem_map_of_mem he)
      simpa using hne
    rw [container?, Store.add, List.lookup_append, hno, Option.none_or, List.lookup_cons, beq_self_eq_true]
  -- a handle that has the name is not one of the new container
  have hother : (s.add c).number? handle ≠ some s.next := fun hn => by
    have hm : s.next ∈ s.references := mem_references hn
    exact hfresh ((h.alive _).2 (List.mem_append_left _ hm))
  refine target?_eq_some_iff.2 ⟨number?_assign.trans (if_pos rfl), ?_⟩
  rw [← hnew, ← container?_release_of_ne hother]
  rfl

theorem read_of_target {answer : Container → Answer} (h : s.target? handle = some (number, c)) :
    s.read handle answer = answer c := by
  rw [read, h]

/-! ### Writing -/

theorem step_set_of_noHandle (ht : s.target? handle = none) :
    s.step (.set handle field value) = ⟨(.noHandle handle, s), []⟩ := by
  rw [step, write, ht]
  rfl

theorem step_set_of_ok (ht : s.target? handle = some (number, c))
    (hc : c.set field value = .ok c') :
    s.step (.set handle field value) = ⟨(.done, s.replace number c'), []⟩ := by
  simp only [step, write, ht, hc]
  rfl

theorem step_set_of_error (ht : s.target? handle = some (number, c))
    (hc : c.set field value = .error e) :
    s.step (.set handle field value) = ⟨(.refused e, s), []⟩ := by
  simp only [step, write, ht, hc]
  rfl

/-! ### Field by field -/

/-- The steps that write several values one after the other. -/
def sets (handle : String) (values : List (String × Value)) : List Step :=
  values.map fun p => .set handle p.1 p.2

theorem run_sets_of_fits {slots : List (Option Value)} (ht : s.target? handle = some (number, c))
    (hc : c.count = 1) (hs : c.model.placeAll c.slots values = .ok slots) :
    (run s (sets handle values)).1.map (·.value) = values.map (fun _ => Answer.done) ∧
      (run s (sets handle values)).2.target? handle = some (number, { c with slots }) := by
  induction values generalizing s c with
  | nil =>
    cases hs
    exact ⟨rfl, ht⟩
  | cons p values ih =>
    rw [Model.placeAll_cons, bind_eq_ok_iff] at hs
    obtain ⟨slots₁, hp, hs⟩ := hs
    have hstep : s.step (.set handle p.1 p.2) =
        ⟨(.done, s.replace number { c with slots := slots₁ }), []⟩ :=
      step_set_of_ok ht (Container.set_of_place hc hp)
    -- the handle is still the only one when the other values are written
    obtain ⟨ha, htarget⟩ := ih (target?_replace ht { c with slots := slots₁ }) hc hs
    rw [sets, List.map_cons, run_cons, hstep]
    refine ⟨?_, htarget⟩
    rw [List.map_cons, List.map_cons, ← sets, ha]

theorem run_sets_of_misfit {before later : List (String × Value)} {p : String × Value}
    {slots : List (Option Value)} {e : UsageError} (ht : s.target? handle = some (number, c))
    (hc : c.count = 1) (hs : c.model.placeAll c.slots before = .ok slots)
    (hp : c.model.misfit? p = some e) :
    (run s (sets handle (before ++ p :: later))).1.map (·.value) =
      before.map (fun _ => Answer.done) ++ Answer.refused e ::
        (run (run s (sets handle before)).2 (sets handle later)).1.map (·.value) := by
  obtain ⟨ha, htarget⟩ := run_sets_of_fits ht hc hs
  have hset : ({ c with slots } : Container).set p.1 p.2 = .error e := Container.set_of_misfit hp
  have hstep := step_set_of_error htarget hset
  rw [sets, List.map_append, List.map_cons, ← sets, run_append, List.map_append, ha, run_cons, hstep,
    ← sets, List.map_cons]

/-! ### Making containers -/

theorem step_create (h : m.direction = .input) :
    s.step (.create handle m) = s.enter handle (.ok ⟨m, 1, m.emptySlots⟩) := by
  rw [step, Container.create_of_input h]

theorem step_decode_of_fits {slots : List (Option Value)} (h : m.direction = .output)
    (hs : m.placeAll m.emptySlots values = .ok slots) :
    s.step (.decode handle m values) = s.enter handle (.ok ⟨m, 1, slots⟩) := by
  rw [step, Container.decode_of_output h, hs]
  rfl

/-- A container that cannot be decoded leaves the store as it was. -/
theorem step_decode_of_misfit {e : UsageError} (h : m.direction = .output)
    (hs : m.placeAll m.emptySlots values = .error e) :
    s.step (.decode handle m values) = ⟨(.refused e, s), []⟩ := by
  rw [step, Container.decode_of_output h, hs]
  rfl

/-- A new container is filled by its only handle. -/
theorem run_create_sets_of_fits {slots : List (Option Value)} (hb : Balanced s [])
    (h : m.direction = .input) (hs : m.placeAll m.emptySlots values = .ok slots) :
    (run s (.create handle m :: sets handle values)).1.map (·.value) =
        Answer.count 1 :: values.map (fun _ => Answer.done) ∧
      (run s (.create handle m :: sets handle values)).2.target? handle =
        some (s.next, ⟨m, 1, slots⟩) := by
  have htarget : (s.enter handle (.ok ⟨m, 1, m.emptySlots⟩)).value.2.target? handle =
      some (s.next, ⟨m, 1, m.emptySlots⟩) := hb.target?_enter
  obtain ⟨hanswers, hend⟩ := run_sets_of_fits htarget rfl hs
  rw [run_cons, step_create h]
  exact ⟨congrArg (Answer.count 1 :: ·) hanswers, hend⟩

theorem run_create_sets_of_misfit {before later : List (String × Value)} {p : String × Value}
    {e : UsageError} (hb : Balanced s []) (h : m.direction = .input)
    (hbefore : ∀ q ∈ before, m.misfit? q = none) (hp : m.misfit? p = some e) :
    ∃ rest, (run s (.create handle m :: sets handle (before ++ p :: later))).1.map (·.value) =
      Answer.count 1 :: before.map (fun _ => Answer.done) ++ Answer.refused e :: rest := by
  have htarget : (s.enter handle (.ok ⟨m, 1, m.emptySlots⟩)).value.2.target? handle =
      some (s.next, ⟨m, 1, m.emptySlots⟩) := hb.target?_enter
  obtain ⟨slots, hs, -⟩ := Model.placeAll_of_fits m.length_emptySlots hbefore
  rw [run_cons, step_create h]
  exact ⟨_, congrArg (Answer.count 1 :: ·) (run_sets_of_misfit htarget rfl hs hp)⟩

/-! ### Reading -/

/-- Handles to containers that read the same get the same answers. -/
theorem reads_of_alike {s' : Store} {number' : ℕ} {c' : Container}
    (ht : s.target? handle = some (number, c)) (ht' : s'.target? handle = some (number', c'))
    (hm : c.model.Alike c'.model) (hs : c.slots = c'.slots) (name : String) :
    (s.step (.get handle name)).value.1 = (s'.step (.get handle name)).value.1 ∧
      (s.step (.getOrDefault handle name)).value.1 =
        (s'.step (.getOrDefault handle name)).value.1 ∧
      (s.step (.isPresent handle name)).value.1 = (s'.step (.isPresent handle name)).value.1 := by
  obtain ⟨hget, hdefault, hpresent⟩ := Container.reads_eq hm hs name
  simp only [step, Logged.value_pure, read_of_target ht, read_of_target ht', hget, hdefault, hpresent,
    and_self]

theorem reads_of_unknown (ht : s.target? handle = some (number, c)) (hf : c.model.field? name = none) :
    let unknown := Answer.refused (.unknownField c.model.fullName name)
    (s.step (.get handle name)).value.1 = unknown ∧
      (s.step (.isPresent handle name)).value.1 = unknown ∧
      (s.step (.getOrDefault handle name)).value.1 = unknown := by
  simp only [step, Logged.value_pure, read_of_target ht, Container.get_eq, Container.isPresent_eq,
    Container.getOrDefault_eq, hf, answerOf, and_self]

theorem reads_of_field? (ht : s.target? handle = some (number, c)) (hf : c.model.field? name = some f)
    (hv : c.model.valueIn c.slots name = slot) :
    (s.step (.get handle name)).value.1 = .value slot ∧
      (s.step (.isPresent handle name)).value.1 = .flag slot.isSome ∧
      (s.step (.getOrDefault handle name)).value.1 =
        .presence slot.isSome (slot.getD (Value.default f.type)) := by
  simp only [step, Logged.value_pure, read_of_target ht, Container.get_eq, Container.isPresent_eq,
    Container.getOrDefault_eq, hf, hv]
  cases slot <;> exact ⟨rfl, rfl, rfl⟩

/-- A field of the container is read from its slot. -/
theorem reads_of_mem {g : FieldModel} (ht : s.target? handle = some (number, c))
    (hg : g ∈ c.model.fields) :
    (s.step (.isPresent handle g.name)).value.1 =
        .flag (c.model.valueIn c.slots g.name).isSome ∧
      (s.step (.get handle g.name)).value.1 = .value (c.model.valueIn c.slots g.name) := by
  obtain ⟨f, hf⟩ : ∃ f, c.model.field? g.name = some f :=
    Option.isSome_iff_exists.1 (List.find?_isSome.2 ⟨g, hg, decide_eq_true rfl⟩)
  obtain ⟨hget, hpresent, -⟩ := reads_of_field? ht hf rfl
  exact ⟨hpresent, hget⟩

/-! ### The two ways -/

/-- **Decoding a container and filling one field by field agree.**  If all values fit, both ways succeed
and every field reads the same: it is present if there is a value for it, and then it has the last one.
Otherwise both refuse the first value that does not fit, for the same reason, and a container that
cannot be decoded leaves the store as it was. -/
theorem decode_eq_create_set {fullName : String} {direction : Direction}
    {fields : Option (List Field)} (h : Model.build fullName direction fields = .ok m)
    (values : List (String × Value)) (steps : List Step) (handle : String) :
    ∃ input output, Model.build fullName .input fields = .ok input ∧
      Model.build fullName .output fields = .ok output ∧
      let decoded := (after steps).step (.decode handle output values)
      let filled := run (after steps) (.create handle input :: sets handle values)
      ((∀ p ∈ values, input.misfit? p = none) ∧
        decoded.value.1 = .count 1 ∧
        filled.1.map (·.value) = Answer.count 1 :: values.map (fun _ => Answer.done) ∧
        (∀ name,
          (decoded.value.2.step (.get handle name)).value.1 =
              (filled.2.step (.get handle name)).value.1 ∧
            (decoded.value.2.step (.getOrDefault handle name)).value.1 =
              (filled.2.step (.getOrDefault handle name)).value.1 ∧
            (decoded.value.2.step (.isPresent handle name)).value.1 =
              (filled.2.step (.isPresent handle name)).value.1) ∧
        ∀ g ∈ input.fields,
          (filled.2.step (.isPresent handle g.name)).value.1 =
              .flag (decide (g.name ∈ values.map Prod.fst)) ∧
            (filled.2.step (.get handle g.name)).value.1 =
              .value (values.reverse.lookup g.name)) ∨
      ∃ before p later e, values = before ++ p :: later ∧
        (∀ q ∈ before, input.misfit? q = none) ∧ input.misfit? p = some e ∧
        decoded = ⟨(.refused e, after steps), []⟩ ∧
        ∃ rest, filled.1.map (·.value) =
          Answer.count 1 :: before.map (fun _ => Answer.done) ++ Answer.refused e :: rest := by
  obtain ⟨input, hin, hdin, -⟩ := Model.build_alike h .input
  obtain ⟨output, hout, hdout, halike⟩ := Model.build_alike hin .output
  refine ⟨input, output, hin, hout, ?_⟩
  intro decoded filled
  have hb := balanced_after steps
  -- both models put the values into the same slots
  have hplace : output.placeAll output.emptySlots values = input.placeAll input.emptySlots values := by
    rw [halike.placeAll, halike.emptySlots]
  rcases Model.fits_or_first_misfit input values with hfit | ⟨before, p, later, e, rfl, hbefore, hp⟩
  · left
    obtain ⟨slots, hs, hvalue⟩ := Model.placeAll_of_fits input.length_emptySlots hfit
    have hdecoded : decoded = (after steps).enter handle (.ok ⟨output, 1, slots⟩) :=
      step_decode_of_fits hdout (hplace.trans hs)
    have hstart : decoded.value.2.target? handle = some ((after steps).next, ⟨output, 1, slots⟩) :=
      hdecoded ▸ hb.target?_enter
    obtain ⟨hanswers, hend⟩ := run_create_sets_of_fits hb hdin hs
    refine ⟨hfit, ?_, hanswers, reads_of_alike hstart hend halike rfl, fun g hg => ?_⟩
    · rw [hdecoded]
      rfl
    · -- the slots were empty before, so that a field has the last value for it
      have hv : input.valueIn slots g.name = values.reverse.lookup g.name := by
        rw [hvalue, Model.valueIn_emptySlots, Option.or_none]
      have hpresent : (values.reverse.lookup g.name).isSome =
          decide (g.name ∈ values.map Prod.fst) := by
        rw [Bool.eq_iff_iff, decide_eq_true_iff, isSome_lookup_iff, List.map_reverse,
          List.mem_reverse]
      obtain ⟨hflag, hget⟩ := reads_of_mem hend hg
      exact ⟨hflag.trans (by rw [hv, hpresent]), hget.trans (by rw [hv])⟩
  · right
    have hmisfit := hplace.trans (Model.placeAll_of_misfit hbefore hp)
    exact ⟨before, p, later, e, rfl, hbefore, hp, step_decode_of_misfit hdout hmisfit,
      run_create_sets_of_misfit hb hdin hbefore hp⟩

/-- A field of which two values are given. -/
def repeatedValues : List (String × Value) := [("Foo", .u8 1), ("Foo", .u8 2)]

theorem decode_eq_create_set_repeatedValues :
    ∃ output, Model.build "Msg A Output" .output (some [⟨"Foo", ⟨1⟩, "guint8", none, [], none⟩]) =
        .ok output ∧
      let decoded := (after []).step (.decode "a" output repeatedValues)
      decoded.value.1 = .count 1 ∧
        (decoded.value.2.step (.get "a" "Foo")).value.1 = .value (some (.u8 2)) := by
  let build := fun direction =>
    Model.build "Msg A Output" direction (some [⟨"Foo", ⟨1⟩, "guint8", none, [], none⟩])
  obtain ⟨m, hm⟩ : ∃ m, build .output = .ok m := exists_eq_ok_of_isOk (by decide +kernel)
  obtain ⟨input, output, hin, hout, h⟩ := decode_eq_create_set hm repeatedValues [] "a"
  have hfits : ((build .input).toOption.map fun m => repeatedValues.all (m.misfit? · = none)) =
      some true := by decide +kernel
  have hnames : ((build .input).toOption.map fun m => m.fields.map (·.name)) = some ["Foo"] := by
    decide +kernel
  rw [show build .input = .ok input from hin] at hfits hnames
  have hfits' : ∀ p ∈ repeatedValues, input.misfit? p = none := by
    simpa [Except.toOption] using hfits
  obtain ⟨g, hg, hname⟩ : ∃ g ∈ input.fields, g.name = "Foo" := by
    have hn : input.fields.map (·.name) = ["Foo"] := Option.some.inj hnames
    exact List.mem_map.1 (hn ▸ List.mem_singleton_self "Foo")
  rcases h with ⟨-, hcount, -, hreads, hvalues⟩ | ⟨before, p, later, e, hsplit, -, hmisfit, -⟩
  · refine ⟨output, hout, hcount, ?_⟩
    have hlast := (hvalues g hg).2
    rw [hname] at hlast
    exact (hreads "Foo").1.trans hlast
  · have hp : p ∈ repeatedValues := by
      rw [hsplit]
      exact List.mem_append_right before List.mem_cons_self
    rw [hfits' p hp] at hmisfit
    cases hmisfit

end Store

end TlvSchema
