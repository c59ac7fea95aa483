import TlvSchema.Proofs.Store

/-!
# The lifetime of containers

A container is disposed in the step that takes its last handle, and only then:

* `gone` — the containers that are alive before a step and not after it;
* `Change` — what a step does to the containers, with its events;
* `disposals` — the containers that are disposed during a run;
* `Balanced.disposals_perm` — the numbers of the containers that were disposed and of those that are
  still alive are the numbers of the containers that were made, each of them once;
* `disposals_closing` — with the handles that are left given back, every container is disposed once.
-/

namespace TlvSchema

namespace Store

variable {s s' : Store} {handle : String} {number n made : Nat} {c : Container}
  {pending : List Nat} {events : List Event}

/-! ### Disposed containers -/

/-- The containers that are alive in `s` and no longer in `s'`. -/
def gone (s s' : Store) : List (Nat × Container) :=
  s.containers.filter fun e => e.1 ∉ s'.numbers

/-- What is logged when a container is disposed: its name, and how many of its slots hold a value. -/
def disposal (e : Nat × Container) : Event :=
  .disposed e.2.model.fullName (e.2.slots.countP Option.isSome)

theorem mem_gone_numbers : n ∈ (s.gone s').map Prod.fst ↔ n ∈ s.numbers ∧ n ∉ s'.numbers := by
  simp only [gone, List.mem_map, List.mem_filter, decide_eq_true_eq, numbers]
  constructor
  · rintro ⟨e, ⟨he, hn⟩, rfl⟩
    exact ⟨⟨e, he, rfl⟩, hn⟩
  · rintro ⟨⟨e, he, rfl⟩, hn⟩
    exact ⟨e, ⟨he, hn⟩, rfl⟩

theorem gone_eq_nil (h : s'.numbers = s.numbers) : s.gone s' = [] := by
  refine List.filter_eq_nil_iff.2 fun e he => ?_
  rw [h, decide_eq_true_eq, not_not]
  exact List.mem_map_of_mem he

theorem gone_add (h : s.next ∈ s'.numbers) : (s.add c).gone s' = s.gone s' := by
  simp [gone, add, h]

theorem gone_replace (h : number ∈ s'.numbers) : (s.replace number c).gone s' = s.gone s' := by
  simp only [gone, replace]
  induction s.containers with
  | nil => rfl
  | cons e l ih =>
    rw [List.map_cons, List.filter_cons, List.filter_cons, ih]
    by_cases he : e.1 = number
    · simp [he, h]
    · simp [he]

theorem gone_remove (hs : s.numbers.Nodup) (hc : (number, c) ∈ s.containers) :
    s.gone (s.remove number) = [(number, c)] := by
  rw [← filter_key_eq hs hc, gone]
  refine List.filter_congr fun e he => ?_
  have hn : e.1 ∈ s.numbers := List.mem_map_of_mem he
  simp [List.mem_filter, hn]

/-! ### Made containers -/

/-- Whether the answer is a number of references. -/
def Answer.isCount : Answer → Bool
  | .count _ => true
  | _ => false

/-- Whether a step with its answer has made a container. -/
def Step.makes : Step → Answer → Bool
  | .create _ _, answer | .decode _ _ _, answer => answer.isCount
  | _, _ => false

/-! ### Changes -/

/-- How the containers change, from `s` to `s'`: some more are made, and the events tell which ones
are gone. -/
structure Change (s s' : Store) (made : Nat) (events : List Event) : Prop where
  /-- The containers that are made get the next numbers. -/
  next : s'.next = s.next + made
  /-- No others are alive than before. -/
  old : ∀ n ∈ s'.numbers, n ∈ s.numbers ∨ s.next ≤ n
  /-- The ones that are made are alive. -/
  new : ∀ n, s.next ≤ n → n < s'.next → n ∈ s'.numbers
  /-- The ones that are no longer alive are disposed. -/
  events : events = (s.gone s').map disposal

namespace Change

theorem of_numbers_eq (hn : s'.numbers = s.numbers) (hx : s'.next = s.next) :
    Change s s' 0 [] where
  next := hx
  old n h := .inl (hn ▸ h)
  new n h h' := absurd h' (by omega)
  events := by rw [gone_eq_nil hn, List.map_nil]

theorem of_add (h : Change (s.add c) s' 0 events) (hn : s.next ∈ s'.numbers) :
    Change s s' 1 events where
  next := h.next
  old n hm := by
    rcases h.old n hm with hm | hm
    · rw [numbers_add, List.mem_append, List.mem_singleton] at hm
      exact hm.imp_right fun he => he.ge
    · exact .inr (Nat.le_of_succ_le hm)
  new n hle hlt := by
    have hx : s'.next = s.next + 1 := h.next
    rwa [show n = s.next by omega]
  events := by rw [h.events, gone_add hn]

theorem of_replace (h : Change (s.replace number c) s' made events) (hn : number ∈ s'.numbers) :
    Change s s' made events where
  next := h.next
  old n hm := (h.old n hm).imp_left fun hn => by rwa [numbers_replace] at hn
  new := h.new
  events := by rw [h.events, gone_replace hn]

/-- The numbers of the containers that were alive or are made are those of the containers that are
gone or alive. -/
theorem perm (h : Change s s' made events) (hs : Balanced s []) (hs' : Balanced s' []) :
    ((s.gone s').map Prod.fst ++ s'.numbers).Perm
      (s.numbers ++ List.range' s.next made) := by
  refine (List.perm_ext_iff_of_nodup ?_ ?_).2 fun n => ?_
  · rw [List.nodup_append]
    refine ⟨hs.numbers.sublist (List.filter_sublist.map _), hs'.numbers, fun a ha b hb hab => ?_⟩
    exact (mem_gone_numbers.1 ha).2 (hab ▸ hb)
  · rw [List.nodup_append]
    refine ⟨hs.numbers, List.nodup_range', fun a ha b hb => ?_⟩
    have hlt := hs.fresh a ha
    have hle := (List.mem_range'_1.1 hb).1
    omega
  · rw [List.mem_append, List.mem_append, mem_gone_numbers, List.mem_range'_1, ← h.next]
    constructor
    · rintro (⟨hn, -⟩ | hn)
      · exact .inl hn
      · exact (h.old n hn).imp_right fun hle => ⟨hle, hs'.fresh n hn⟩
    · rintro (hn | ⟨hle, hlt⟩)
      · by_cases hn' : n ∈ s'.numbers
        · exact .inr hn'
        · exact .inl ⟨hn, hn'⟩
      · exact .inr (h.new n hle hlt)

end Change

namespace Balanced

/-- A reference is the last one if no other is left, and then the container is disposed. -/
theorem giveBack_change (h : Balanced s (number :: pending)) :
    Change s (s.giveBack number).value.2 0 (s.giveBack number).events ∧
      (s.giveBack number).value.1 = decide (number ∉ s.references ++ pending) := by
  obtain ⟨c, hc, hget, hcount⟩ := h.exists_count
  simp only [Store.giveBack, hget, Container.clear_eq]
  by_cases h1 : c.count = 1
  · -- no other reference is left
    have hnone : number ∉ s.references ++ pending := List.count_eq_zero.1 (by omega)
    simp only [h1, if_true]
    refine ⟨⟨rfl, fun n hn => ?_, fun n hle hlt => absurd hlt (Nat.not_lt.2 hle), ?_⟩, ?_⟩
    · rw [Logged.value_bind, Logged.value_pure, numbers_remove] at hn
      exact .inl (List.mem_of_mem_filter hn)
    · exact (congrArg (List.map disposal) (gone_remove h.numbers hc)).symm
    · exact (decide_eq_true hnone).symm
  · have hpos : number ∈ s.references ++ pending := List.count_pos_iff.1 (by omega)
    simp only [h1, if_false]
    exact ⟨.of_numbers_eq numbers_replace rfl, (decide_eq_false (not_not.2 hpos)).symm⟩

theorem release_change (h : Balanced s pending) :
    Change s (s.release handle).value.2 0 (s.release handle).events := by
  unfold Store.release
  cases hh : s.number? handle with
  | none => exact .of_numbers_eq rfl rfl
  | some number =>
    -- forgetting the handle leaves the containers as they are
    obtain ⟨hc, -⟩ := (h.forget hh).giveBack_change
    exact ⟨hc.next, hc.old, hc.new, hc.events⟩

theorem assign_change (h : Balanced s (number :: pending)) :
    Change s (s.assign handle number).value 0 (s.assign handle number).events := by
  have hc : Change s (s.release handle).value.2 0 (s.release handle).events := h.release_change
  refine ⟨hc.next, hc.old, hc.new, ?_⟩
  rw [Store.assign, Logged.events_bind, Logged.events_pure, List.append_nil, hc.events]
  rfl

theorem write_change (s : Store) (handle field : String) (value : Value) :
    Change s (s.write handle field value).2 0 [] := by
  rcases write_cases s handle field value with he | ⟨number, c, slots, -, he⟩
  · rw [he]
    exact .of_numbers_eq rfl rfl
  · rw [he]
    exact .of_numbers_eq numbers_replace rfl

theorem enter_change {r : Except UsageError Container} (h : Balanced s [])
    (hr : ∀ c, r = .ok c → c.count = 1) :
    Change s (s.enter handle r).value.2 (s.enter handle r).value.1.isCount.toNat
      (s.enter handle r).events := by
  cases r with
  | error e => exact .of_numbers_eq rfl rfl
  | ok c =>
    -- the new container is alive in the end, so only the one of a handle in use can be gone
    have hb := h.add (hr c rfl)
    refine .of_add (c := c) ?_ hb.mem_numbers_assign
    rw [Store.enter, Logged.events_bind, Logged.events_pure, List.append_nil]
    exact hb.assign_change

theorem retain_change {second : String} (h : Balanced s []) :
    Change s (s.retain handle second).value.2 0 (s.retain handle second).events := by
  unfold Store.retain
  cases ht : s.target? handle with
  | none => exact .of_numbers_eq rfl rfl
  | some t =>
    obtain ⟨number, c⟩ := t
    -- the second handle may be the first one, but the container has a reference for it by now
    have hb := h.replace_count_succ ht
    refine .of_replace (c := { c with count := c.count + 1 }) ?_ hb.mem_numbers_assign
    rw [Logged.events_bind, Logged.events_pure, List.append_nil]
    exact hb.assign_change

end Balanced

/-! ### Steps -/

namespace Balanced

theorem step_change (h : Balanced s []) (step : Step) :
    Change s (s.step step).value.2 (step.makes (s.step step).value.1).toNat
      (s.step step).events := by
  cases step with
  | create handle m => exact h.enter_change fun _ => Container.count_of_create
  | decode handle m values => exact h.enter_change fun _ => Container.count_of_decode
  | retain handle second => exact h.retain_change
  | release handle =>
    rw [Store.step, Logged.events_bind, Logged.events_pure, List.append_nil]
    exact h.release_change
  | drop handle =>
    rw [Store.step, Logged.events_bind, Logged.events_pure, List.append_nil]
    exact h.release_change
  | set handle field value => exact write_change s handle field value
  | _ => exact .of_numbers_eq rfl rfl

theorem mem_numbers_iff (h : Balanced s []) : n ∈ s.numbers ↔ 0 < s.handleCount n := by
  rw [h.alive, List.append_nil, handleCount, List.count_pos_iff]

theorem count_eq_handleCount (h : Balanced s []) (hc : s.container? n = some c) :
    c.count = s.handleCount n := by
  rw [h.counts _ (h.container?_eq_some_iff.1 hc), List.append_nil, handleCount]

/-- The container of a handle has one handle more than without it. -/
theorem handleCount_eq (h : Balanced s pending) (hh : s.number? handle = some n) :
    s.handleCount n = (s.forget handle).handleCount n + 1 := by
  rw [handleCount, (references_perm_forget h.names hh).count_eq, List.count_cons_self, handleCount]

/-- A release answers yes if it gives the last handle back. -/
theorem release_answer (h : Balanced s []) (hh : s.number? handle = some n) :
    (s.step (.release handle)).value.1 = .flag (decide (s.handleCount n = 1)) := by
  have hm : n ∈ s.references ++ [] := by simpa using mem_references hh
  obtain ⟨c, -, hc⟩ := h.exists_container hm
  -- the reference that is given back is counted, but no longer held
  have hlast : n ∉ (s.forget handle).references ++ [] ↔ s.handleCount n = 1 := by
    rw [List.append_nil, ← List.count_eq_zero, h.handleCount_eq hh, handleCount]
    omega
  have hflag := (h.forget hh).giveBack_change.2
  simp only [Store.step, Store.release, hh, Store.read, target?_eq_some_iff.2 ⟨hh, hc⟩,
    Logged.value_bind, Logged.value_pure, hflag, hlast]

end Balanced

/-! ### Runs -/

/-- The events of a run. -/
def logged (s : Store) (steps : List Step) : List Event := (run s steps).1.flatMap Logged.events

/-- How many containers are made in a run. -/
def creations (s : Store) (steps : List Step) : Nat :=
  (steps.zip (run s steps).1).countP fun p => p.1.makes p.2.value

/-- The containers that are disposed in a run, in that order. -/
def disposals : Store → List Step → List (Nat × Container)
  | _, [] => []
  | s, step :: steps => s.gone (s.step step).value.2 ++ disposals (s.step step).value.2 steps

theorem run_cons (s : Store) (step : Step) (steps : List Step) :
    run s (step :: steps) =
      (⟨(s.step step).value.1, (s.step step).entries⟩ :: (run (s.step step).value.2 steps).1,
        (run (s.step step).value.2 steps).2) :=
  rfl

theorem run_append (s : Store) (steps steps' : List Step) :
    run s (steps ++ steps') =
      ((run s steps).1 ++ (run (run s steps).2 steps').1, (run (run s steps).2 steps').2) := by
  induction steps generalizing s with
  | nil => rfl
  | cons step steps ih => rw [List.cons_append, run_cons, run_cons, ih, List.cons_append]

theorem logged_append (s : Store) (steps steps' : List Step) :
    logged s (steps ++ steps') = logged s steps ++ logged (run s steps).2 steps' := by
  rw [logged, run_append, List.flatMap_append, logged, logged]

theorem logged_cons (s : Store) (step : Step) (steps : List Step) :
    logged s (step :: steps) = (s.step step).events ++ logged (s.step step).value.2 steps :=
  rfl

theorem creations_cons (s : Store) (step : Step) (steps : List Step) :
    creations s (step :: steps) =
      (step.makes (s.step step).value.1).toNat + creations (s.step step).value.2 steps := by
  rw [creations, run_cons, List.zip_cons_cons, List.countP_cons, Nat.add_comm]
  cases hm : step.makes (s.step step).value.1 <;> simp [creations]

namespace Balanced

theorem run (h : Balanced s []) (steps : List Step) : Balanced (run s steps).2 [] := by
  induction steps generalizing s with
  | nil => exact h
  | cons step steps ih => exact ih (h.step step)

theorem logged_eq (h : Balanced s []) (steps : List Step) :
    logged s steps = (disposals s steps).map disposal := by
  induction steps generalizing s with
  | nil => rfl
  | cons step steps ih =>
    rw [logged_cons, disposals, List.map_append, ← ih (h.step step), (h.step_change step).events]

/-- **No container is lost and none is disposed twice.** -/
theorem disposals_perm (h : Balanced s []) (steps : List Step) :
    ((disposals s steps).map Prod.fst ++ (Store.run s steps).2.numbers).Perm
      (s.numbers ++ List.range' s.next (creations s steps)) := by
  induction steps generalizing s with
  | nil => simp [disposals, Store.run, creations]
  | cons step steps ih =>
    have hc := h.step_change step
    have hrest := ih (h.step step)
    -- the containers that the first step makes are alive when the other steps begin
    rw [hc.next] at hrest
    rw [disposals, List.map_append, List.append_assoc, creations_cons, ← List.range'_append_1,
      ← List.append_assoc s.numbers]
    refine (hrest.append_left _).trans ?_
    rw [← List.append_assoc]
    exact (hc.perm h (h.step step)).append_right _

end Balanced

/-! ### The end -/

/-- The steps that give back the handles that are left. -/
def closing (s : Store) : List Step := s.handleNames.map .drop

theorem releaseAll_eq_run (s : Store) (names : List String) :
    (s.releaseAll names).value = (run s (names.map .drop)).2 ∧
      (s.releaseAll names).events = logged s (names.map .drop) := by
  induction names generalizing s with
  | nil => exact ⟨rfl, rfl⟩
  | cons name names ih =>
    obtain ⟨hv, he⟩ := ih (s.release name).value.2
    refine ⟨hv, ?_⟩
    rw [releaseAll, Logged.events_bind, he, List.map_cons, logged_cons, step, Logged.events_bind,
      Logged.events_pure, List.append_nil]
    rfl

theorem handles_releaseAll (s : Store) (names : List String) :
    (s.releaseAll names).value.handles = s.handles.filter fun e => e.1 ∉ names := by
  induction names generalizing s with
  | nil => simp [releaseAll]
  | cons name names ih =>
    rw [releaseAll, Logged.value_bind, ih, handles_release, forget, List.filter_filter]
    refine List.filter_congr fun e _ => ?_
    simp [Bool.and_comm]

theorem handles_close (s : Store) : s.close.value.handles = [] := by
  rw [close, handles_releaseAll, List.filter_eq_nil_iff]
  intro e he
  have hm : e.1 ∈ s.handleNames := List.mem_mergeSort.2 (List.mem_map_of_mem he)
  simpa using hm

theorem Balanced.containers_close (h : Balanced s []) : s.close.value.containers = [] := by
  have hb : Balanced s.close.value [] := (releaseAll_eq_run s s.handleNames).1 ▸ h.run s.closing
  refine List.eq_nil_iff_forall_not_mem.2 fun e he => ?_
  have hm := (hb.alive e.1).1 (List.mem_map_of_mem he)
  rw [references, handles_close] at hm
  exact List.not_mem_nil hm

theorem creations_append (s : Store) (steps steps' : List Step) :
    creations s (steps ++ steps') = creations s steps + creations (run s steps).2 steps' := by
  induction steps generalizing s with
  | nil => exact (Nat.zero_add _).symm
  | cons step steps ih =>
    rw [List.cons_append, creations_cons, creations_cons, ih, Nat.add_assoc, run_cons]

theorem creations_drop (s : Store) (names : List String) : creations s (names.map .drop) = 0 := by
  induction names generalizing s with
  | nil => rfl
  | cons name names ih =>
    rw [List.map_cons, creations_cons, ih]
    rfl

/-- The store after several steps, beginning with nothing. -/
def after (steps : List Step) : Store := (run empty steps).2

theorem balanced_after (steps : List Step) : Balanced (after steps) [] := balanced_empty.run steps

theorem after_concat (steps : List Step) (step : Step) :
    after (steps ++ [step]) = ((after steps).step step).value.2 := by
  rw [after, run_append]
  rfl

/-- With the handles that are left given back, every container has been disposed once. -/
theorem disposals_closing (steps : List Step) :
    ((disposals empty (steps ++ (after steps).closing)).map Prod.fst).Perm
      (List.range (creations empty steps)) := by
  have hp := balanced_empty.disposals_perm (steps ++ (after steps).closing)
  have hc : (after (steps ++ (after steps).closing)).containers = [] := by
    rw [after, run_append, ← after, closing, ← (releaseAll_eq_run _ _).1]
    exact (balanced_after steps).containers_close
  rw [creations_append, ← after, closing, creations_drop, Nat.add_zero, numbers, ← closing, hc,
    List.map_nil, List.append_nil] at hp
  rwa [List.range_eq_range']

end Store

end TlvSchema
