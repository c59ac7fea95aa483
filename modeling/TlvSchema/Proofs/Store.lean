import TlvSchema.Proofs.Logged
import TlvSchema.Proofs.Lookup
import TlvSchema.Store

/-!
# References to containers

A container counts the handles that refer to it, and it is alive as long as there are some.

* `handleCount` — how many handles a container has
* `Balanced` — each container counts its references, some of which may have no handle at the moment
* `Balanced.step` — no step of a store brings it out of balance
-/

namespace TlvSchema

/-! ### New containers -/

namespace Container

variable {m : Model} {values : List (String × Value)} {c : Container}

theorem count_of_create (h : create m = .ok c) : c.count = 1 := by
  obtain ⟨_, -, hc⟩ := bind_eq_ok_iff.1 h
  cases hc
  rfl

theorem count_of_decode (h : decode m values = .ok c) : c.count = 1 := by
  obtain ⟨_, -, hs⟩ := bind_eq_ok_iff.1 h
  obtain ⟨slots, -, hc⟩ := bind_eq_ok_iff.1 hs
  cases hc
  rfl

/-! ### Released containers -/

theorem clearSlots_eq (released : ℕ) (slots : List (Option Value)) :
    clearSlots released slots =
      (slots.map fun _ => none, released + slots.countP Option.isSome) := by
  induction slots generalizing released with
  | nil => rfl
  | cons slot slots ih =>
    cases slot with
    | none => simp [clearSlots, ih]
    | some value => simp [clearSlots, ih, Nat.add_assoc, Nat.add_comm 1]

/-- Emptying a container counts the slots that hold a value. -/
theorem clear_eq (c : Container) :
    c.clear = ({ c with slots := c.slots.map fun _ => none }, c.slots.countP Option.isSome) := by
  rw [clear, clearSlots_eq, Nat.zero_add]

end Container

namespace Store

variable {s : Store} {handle : String} {number n : Nat} {c : Container} {pending : List Nat}

/-! ### Containers, handles and references -/

/-- The numbers of the containers that are alive. -/
def numbers (s : Store) : List Nat := s.containers.map Prod.fst

/-- The number of each handle's container. -/
def references (s : Store) : List Nat := s.handles.map Prod.snd

/-- How many handles a container has. -/
def handleCount (s : Store) (number : Nat) : Nat := s.references.count number

@[simp] theorem numbers_replace : (s.replace number c).numbers = s.numbers := by
  simp only [numbers, replace, List.map_map]
  refine List.map_congr_left fun e _ => ?_
  by_cases he : e.1 = number <;> simp [he]

@[simp] theorem numbers_remove :
    (s.remove number).numbers = s.numbers.filter (· ≠ number) := by
  simp only [numbers, remove, List.filter_map]
  rfl

@[simp] theorem numbers_add : (s.add c).numbers = s.numbers ++ [s.next] := by
  simp [numbers, add]

@[simp] theorem references_replace : (s.replace number c).references = s.references := rfl

@[simp] theorem references_remove : (s.remove number).references = s.references := rfl

@[simp] theorem references_add : (s.add c).references = s.references := rfl

@[simp] theorem references_hold :
    (s.hold handle number).references = s.references ++ [number] := by
  simp [references, hold]

theorem mem_replace {e : Nat × Container} (h : e ∈ (s.replace number c).containers) :
    e = (number, c) ∨ e ∈ s.containers ∧ e.1 ≠ number := by
  obtain ⟨d, hd, rfl⟩ := List.mem_map.1 h
  by_cases hn : d.1 = number
  · simp [hn]
  · simp [hn, hd]

theorem mem_references (h : s.number? handle = some number) : number ∈ s.references :=
  List.mem_map_of_mem (f := Prod.snd) (mem_of_lookup h)

/-- A handle that is forgotten takes one reference with it. -/
theorem references_perm_forget (hn : (s.handles.map Prod.fst).Nodup)
    (h : s.number? handle = some number) :
    s.references.Perm (number :: (s.forget handle).references) := by
  have hp := (List.filter_append_perm
    (fun e : String × Nat => decide (e.1 = handle)) s.handles).symm
  rw [filter_key_eq hn (mem_of_lookup h)] at hp
  simpa [references, forget] using hp.map Prod.snd

theorem handles_release : (s.release handle).value.2.handles = (s.forget handle).handles := by
  unfold Store.release
  cases hh : s.number? handle with
  | none =>
    -- there is nothing to forget
    have hno : ∀ e ∈ s.handles, e.1 ≠ handle := fun e he heq =>
      absurd (List.lookup_isSome_iff.2 ⟨e, he, by simpa using heq.symm⟩) (by
        rw [show s.handles.lookup handle = none from hh]; simp)
    exact (List.filter_eq_self.2 fun e he => by simpa using hno e he).symm
  | some number =>
    dsimp only
    unfold Store.giveBack
    split
    · rfl
    · split <;> rfl

/-! ### The container of a handle -/

theorem target?_eq_some_iff :
    s.target? handle = some (number, c) ↔
      s.number? handle = some number ∧ s.container? number = some c := by
  simp only [target?, bind, pure, Option.bind_eq_some_iff, Option.some.injEq, Prod.mk.injEq]
  constructor
  · rintro ⟨n, hn, d, hd, rfl, rfl⟩
    exact ⟨hn, hd⟩
  · rintro ⟨hn, hc⟩
    exact ⟨number, hn, c, hc, rfl, rfl⟩

/-- Writing a field changes nothing but the slots of the container. -/
theorem write_cases (s : Store) (handle field : String) (value : Value) :
    (s.write handle field value).2 = s ∨
      ∃ number c slots, s.target? handle = some (number, c) ∧
        (s.write handle field value).2 = s.replace number { c with slots } := by
  unfold Store.write
  cases ht : s.target? handle with
  | none => exact .inl rfl
  | some t =>
    obtain ⟨number, c⟩ := t
    cases hs : c.set field value with
    | error e => exact .inl (by simp [hs])
    | ok c' =>
      obtain ⟨slots, -, hc⟩ := bind_eq_ok_iff.1 hs
      split at hc
      · cases hc
        exact .inr ⟨number, c, slots, rfl, by simp [hs]⟩
      · cases hc

/-! ### Stores in balance -/

/-- The store is in balance but for some references that no handle has yet, or no longer has: the
containers that are alive are those with references, and each counts its references. -/
structure Balanced (s : Store) (pending : List Nat) : Prop where
  /-- No number is given twice. -/
  numbers : s.numbers.Nodup
  /-- No two handles have one name. -/
  names : (s.handles.map Prod.fst).Nodup
  /-- Numbers are given in ascending order. -/
  fresh : ∀ n ∈ s.numbers, n < s.next
  /-- A container is alive as long as it has references. -/
  alive : ∀ n, n ∈ s.numbers ↔ n ∈ s.references ++ pending
  /-- Its count is the number of its references. -/
  counts : ∀ e ∈ s.containers, e.2.count = (s.references ++ pending).count e.1

theorem balanced_empty : Balanced empty [] := by
  constructor <;> simp [empty, Store.numbers, references]

namespace Balanced

theorem container?_eq_some_iff (h : Balanced s pending) :
    s.container? number = some c ↔ (number, c) ∈ s.containers :=
  lookup_eq_some_iff_mem h.numbers

theorem exists_container (h : Balanced s pending) (hn : number ∈ s.references ++ pending) :
    ∃ c, (number, c) ∈ s.containers ∧ s.container? number = some c := by
  obtain ⟨⟨_, c⟩, hc, rfl⟩ := List.mem_map.1 ((h.alive number).2 hn)
  exact ⟨c, hc, h.container?_eq_some_iff.2 hc⟩

/-- The references without a handle may be listed in any order. -/
theorem of_perm {s' : Store} {pending' : List Nat} (h : Balanced s pending)
    (hc : s'.containers = s.containers) (hx : s'.next = s.next)
    (hn : (s'.handles.map Prod.fst).Nodup)
    (hp : (s.references ++ pending).Perm (s'.references ++ pending')) : Balanced s' pending' where
  numbers := by rw [Store.numbers, hc]; exact h.numbers
  names := hn
  fresh n hm := by rw [hx]; exact h.fresh n (by rwa [Store.numbers, hc] at hm)
  alive n := by rw [← hp.mem_iff, ← h.alive, Store.numbers, Store.numbers, hc]
  counts e he := by rw [← hp.count_eq]; exact h.counts e (hc ▸ he)

/-- A container is replaced by one that counts other references without a handle. -/
theorem replace {pending' : List Nat} (h : Balanced s pending)
    (hm : ∀ n, n ∈ s.references ++ pending' ↔ n ∈ s.references ++ pending)
    (hc : c.count = (s.references ++ pending').count number)
    (ho : ∀ n, n ≠ number →
      (s.references ++ pending').count n = (s.references ++ pending).count n) :
    Balanced (s.replace number c) pending' where
  numbers := by simpa using h.numbers
  names := h.names
  fresh n hm := h.fresh n (by rwa [numbers_replace] at hm)
  alive n := by rw [numbers_replace, references_replace, hm, h.alive]
  counts e he := by
    rcases mem_replace he with rfl | ⟨he, hne⟩
    · exact hc
    · exact (h.counts e he).trans (ho e.1 hne).symm

theorem add (h : Balanced s pending) (hc : c.count = 1) :
    Balanced (s.add c) (s.next :: pending) := by
  -- nothing refers to a number that has not been given yet
  have hnew : s.next ∉ s.references ++ pending := fun hm =>
    absurd (h.fresh _ ((h.alive _).2 hm)) (Nat.lt_irrefl _)
  have hp : (s.references ++ s.next :: pending).Perm (s.next :: (s.references ++ pending)) :=
    List.perm_middle
  refine ⟨?_, h.names, ?_, fun n => ?_, fun e he => ?_⟩
  · rw [numbers_add, List.nodup_append]
    refine ⟨h.numbers, by simp, fun a ha b hb => ?_⟩
    rw [List.mem_singleton.1 hb]
    exact Nat.ne_of_lt (h.fresh a ha)
  · intro n hn
    rw [numbers_add, List.mem_append, List.mem_singleton] at hn
    rcases hn with hn | rfl
    · exact Nat.lt_succ_of_lt (h.fresh n hn)
    · exact Nat.lt_succ_self _
  · rw [numbers_add, references_add, hp.mem_iff, List.mem_append, h.alive, List.mem_singleton,
      List.mem_cons, or_comm]
  · rw [references_add, hp.count_eq]
    rcases List.mem_append.1 he with he | he
    · have hne : s.next ≠ e.1 := fun hx => hnew (hx ▸ (h.alive e.1).1 (List.mem_map_of_mem he))
      rw [List.count_cons_of_ne hne, h.counts e he]
    · rw [List.mem_singleton.1 he, List.count_cons_self, List.count_eq_zero.2 hnew, hc]

theorem forget (h : Balanced s pending) (hh : s.number? handle = some number) :
    Balanced (s.forget handle) (number :: pending) := by
  refine h.of_perm rfl rfl (h.names.sublist (List.filter_sublist.map _)) ?_
  exact ((references_perm_forget h.names hh).append_right _).trans List.perm_middle.symm

theorem hold (h : Balanced s (number :: pending)) (hh : handle ∉ s.handles.map Prod.fst) :
    Balanced (s.hold handle number) pending := by
  refine h.of_perm rfl rfl ?_ ?_
  · rw [Store.hold, List.map_append, List.nodup_append]
    refine ⟨h.names, by simp, fun a ha b hb hab => ?_⟩
    rw [List.map_cons, List.map_nil, List.mem_singleton] at hb
    rw [hab, hb] at ha
    exact hh ha
  · rw [references_hold, List.append_assoc, List.singleton_append]

/-- A reference that no handle has is counted beside the other references. -/
theorem exists_count (h : Balanced s (number :: pending)) :
    ∃ c, (number, c) ∈ s.containers ∧ s.container? number = some c ∧
      c.count = (s.references ++ pending).count number + 1 := by
  have hp : (s.references ++ number :: pending).Perm (number :: (s.references ++ pending)) :=
    List.perm_middle
  obtain ⟨c, hc, hget⟩ := h.exists_container (hp.mem_iff.2 List.mem_cons_self)
  exact ⟨c, hc, hget, by rw [h.counts _ hc, hp.count_eq, List.count_cons_self]⟩

/-- Giving back a reference that no handle has leaves the other references in balance. -/
theorem giveBack (h : Balanced s (number :: pending)) :
    Balanced (s.giveBack number).value.2 pending := by
  have hp : (s.references ++ number :: pending).Perm (number :: (s.references ++ pending)) :=
    List.perm_middle
  obtain ⟨c, hc, hget, hcount⟩ := h.exists_count
  have hother : ∀ n, n ≠ number →
      (s.references ++ pending).count n = (s.references ++ number :: pending).count n := by
    intro n hne
    rw [hp.count_eq, List.count_cons_of_ne hne.symm]
  simp only [Store.giveBack, hget]
  by_cases h1 : c.count = 1
  · -- nothing else refers to the container, which is removed
    have hnone : number ∉ s.references ++ pending := List.count_eq_zero.1 (by omega)
    simp only [h1, if_true, Logged.value_bind, Logged.value_pure]
    refine ⟨?_, h.names, fun n hn => ?_, fun n => ?_, fun e he => ?_⟩
    · rw [numbers_remove]
      exact h.numbers.sublist List.filter_sublist
    · rw [numbers_remove] at hn
      exact h.fresh n (List.mem_of_mem_filter hn)
    · rw [numbers_remove, references_remove, List.mem_filter, h.alive, hp.mem_iff, List.mem_cons]
      by_cases hne : n = number
      · simp [hne, hnone]
      · simp [hne]
    · obtain ⟨he, hne⟩ := List.mem_filter.1 he
      rw [references_remove, h.counts e he, hother e.1 (by simpa using hne)]
  · -- the container stays alive with one reference less
    have hpos : number ∈ s.references ++ pending := List.count_pos_iff.1 (by omega)
    simp only [h1, if_false, Logged.value_pure]
    refine h.replace (fun n => ?_) ?_ hother
    · rw [hp.mem_iff, List.mem_cons]
      exact ⟨.inr, fun hn => hn.elim (fun he => he ▸ hpos) id⟩
    · change c.count - 1 = _
      omega

theorem release (h : Balanced s pending) : Balanced (s.release handle).value.2 pending := by
  unfold Store.release
  cases hh : s.number? handle with
  | none => exact h
  | some number => exact (h.forget hh).giveBack

theorem assign (h : Balanced s (number :: pending)) :
    Balanced (s.assign handle number).value pending := by
  have hr : Balanced (s.release handle).value.2 (number :: pending) := h.release
  refine hr.hold ?_
  rw [handles_release]
  simp [Store.forget]

/-- A container that has just got a handle is alive. -/
theorem mem_numbers_assign (h : Balanced s (number :: pending)) :
    number ∈ (s.assign handle number).value.numbers := by
  rw [h.assign.alive, Store.assign, Logged.value_bind, Logged.value_pure, references_hold]
  simp

/-! ### Steps -/

theorem enter {r : Except UsageError Container} (h : Balanced s [])
    (hr : ∀ c, r = .ok c → c.count = 1) : Balanced (s.enter handle r).value.2 [] := by
  cases r with
  | error e => exact h
  | ok c => exact (h.add (hr c rfl)).assign

/-- The container of a handle gets a reference for a second one. -/
theorem replace_count_succ (h : Balanced s []) (ht : s.target? handle = some (number, c)) :
    Balanced (s.replace number { c with count := c.count + 1 }) [number] := by
  obtain ⟨hn, hc⟩ := target?_eq_some_iff.1 ht
  have hm := mem_references hn
  have hp : (s.references ++ [number]).Perm (number :: s.references) :=
    List.perm_append_comm
  have hcount := h.counts _ (h.container?_eq_some_iff.1 hc)
  rw [List.append_nil] at hcount
  refine h.replace (fun n => ?_) ?_ fun n hne => ?_
  · rw [hp.mem_iff, List.mem_cons, List.append_nil]
    exact ⟨fun hn => hn.elim (fun he => he ▸ hm) id, .inr⟩
  · rw [hp.count_eq, List.count_cons_self]
    exact congrArg Nat.succ hcount
  · rw [hp.count_eq, List.count_cons_of_ne hne.symm, List.append_nil]

theorem retain {second : String} (h : Balanced s []) :
    Balanced (s.retain handle second).value.2 [] := by
  unfold Store.retain
  cases ht : s.target? handle with
  | none => exact h
  | some t => exact (h.replace_count_succ ht).assign

theorem write {field : String} {value : Value} (h : Balanced s []) :
    Balanced (s.write handle field value).2 [] := by
  rcases write_cases s handle field value with he | ⟨number, c, slots, ht, he⟩
  · rwa [he]
  · rw [he]
    refine h.replace (fun _ => .rfl) ?_ fun _ _ => rfl
    exact h.counts _ (h.container?_eq_some_iff.1 (target?_eq_some_iff.1 ht).2)

/-- Every step leaves the store in balance. -/
theorem step (h : Balanced s []) (step : Step) : Balanced (s.step step).value.2 [] := by
  cases step with
  | create handle m => exact h.enter fun _ => Container.count_of_create
  | decode handle m values => exact h.enter fun _ => Container.count_of_decode
  | retain handle second => exact h.retain
  | release handle => exact h.release
  | drop handle => exact h.release
  | set handle field value => exact h.write
  | _ => exact h

end Balanced

end Store

end TlvSchema
