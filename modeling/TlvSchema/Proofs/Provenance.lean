import TlvSchema.Proofs.Population

/-!
# What a step does to a container

Handles come and go, and with them references are counted; but the model and the slots of a container
stay as they are, except that a value is written through a handle.  So whatever is alive after a step has
been alive before it with the same contents, or is new, or has been written in the step.

* `create_eq_ok_iff`, `decode_eq_ok_iff`, `set_eq_ok_iff` — when containers are made and written
* `SameContents` — two states of a container that differ in its references at most
* `Provenance` — where a container that is alive after a step comes from
* `provenance` — every container comes from somewhere
* `Balanced.contents` — a container that stays alive has its contents, unless it has been written
-/

namespace TlvSchema

namespace Container

variable {m : Model} {field : String} {value : Value} {values : List (String × Value)}
  {c c' : Container}

/-! ### Making and writing -/

theorem create_eq_ok_iff :
    create m = .ok c ↔ m.direction = .input ∧ ⟨m, 1, m.emptySlots⟩ = c := by
  rw [create, Model.checkDirection]
  by_cases hd : m.direction = .input
  · simp [hd, bind, Except.bind, pure, Except.pure]
  · simp [hd, bind, Except.bind]

theorem decode_eq_ok_iff :
    decode m values = .ok c ↔ m.direction = .output ∧
      ∃ slots, m.placeAll m.emptySlots values = .ok slots ∧ ⟨m, 1, slots⟩ = c := by
  by_cases hd : m.direction = .output
  · rw [decode_of_output hd, map_eq_ok_iff]
    exact (and_iff_right hd).symm
  · rw [decode, Model.checkDirection]
    simp [hd, bind, Except.bind]

theorem set_eq_ok_iff :
    c.set field value = .ok c' ↔
      ∃ slots, c.model.place c.slots field value = .ok slots ∧ c.count = 1 ∧
        { c with slots } = c' := by
  rw [set, bind_eq_ok_iff]
  refine exists_congr fun slots => and_congr_right fun _ => ?_
  by_cases hc : c.count = 1
  · simp [hc, pure, Except.pure]
  · simp [hc]

/-! ### Contents -/

/-- The two have one model and the same slots. -/
structure SameContents (c c' : Container) : Prop where
  /-- The models are the same. -/
  model : c'.model = c.model
  /-- The slots are the same. -/
  slots : c'.slots = c.slots

namespace SameContents

theorem refl (c : Container) : SameContents c c := ⟨rfl, rfl⟩

theorem trans {c d e : Container} (h : SameContents c d) (h' : SameContents d e) :
    SameContents c e :=
  ⟨h'.model.trans h.model, h'.slots.trans h.slots⟩

end SameContents

end Container

open Container

namespace Store

variable {s s' t : Store} {handle second field : String} {value : Value} {number n k : ℕ}
  {c c' : Container} {e : UsageError} {pending : List ℕ}

/-! ### Contents that stay -/

/-- Every container of `s'` is alive in `s` with the same contents. -/
def Preserves (s s' : Store) : Prop :=
  ∀ n c', s'.container? n = some c' → ∃ c, s.container? n = some c ∧ SameContents c c'

theorem Preserves.refl (s : Store) : Preserves s s := fun _ c h => ⟨c, h, .refl c⟩

theorem Preserves.trans (h : Preserves s s') (h' : Preserves s' t) : Preserves s t := by
  intro n c'' hc''
  obtain ⟨c', hc', hsame'⟩ := h' n c'' hc''
  obtain ⟨c, hc, hsame⟩ := h n c' hc'
  exact ⟨c, hc, hsame.trans hsame'⟩

theorem preserves_replace (hc : s.container? number = some c) (h : SameContents c c') :
    Preserves s (s.replace number c') := by
  intro n d hd
  rw [container?_replace] at hd
  split_ifs at hd with hn
  · rw [hn, hc] at hd
    cases hd
    exact ⟨c, hn ▸ hc, h⟩
  · exact ⟨d, hd, .refl d⟩

theorem preserves_remove (s : Store) (number : ℕ) : Preserves s (s.remove number) := by
  intro n d hd
  rw [container?_remove] at hd
  split_ifs at hd with hn
  exact ⟨d, hd, .refl d⟩

theorem preserves_giveBack (s : Store) (number : ℕ) :
    Preserves s (s.giveBack number).value.2 := by
  unfold giveBack
  cases hc : s.container? number with
  | none => exact .refl s
  | some c =>
    dsimp only
    split_ifs
    · exact preserves_remove s number
    · exact preserves_replace hc ⟨rfl, rfl⟩

theorem preserves_release (s : Store) (handle : String) :
    Preserves s (s.release handle).value.2 := by
  unfold release
  cases s.number? handle with
  | none => exact .refl s
  | some number => exact preserves_giveBack (s.forget handle) number

theorem preserves_assign (s : Store) (handle : String) (number : ℕ) :
    Preserves s (s.assign handle number).value :=
  preserves_release s handle

/-! ### New containers and written ones -/

theorem container?_add (h : (s.add c).container? n = some c') :
    s.container? n = some c' ∨ n = s.next ∧ c' = c := by
  rw [container?, add, List.lookup_append, Option.or_eq_some_iff] at h
  rcases h with h | ⟨-, h⟩
  · exact .inl h
  · have hm := mem_of_lookup h
    rw [List.mem_singleton] at hm
    exact .inr (Prod.mk.inj hm)

/-- Where a container with a number comes from that is alive after a step. -/
inductive Provenance (s : Store) (n : ℕ) (c' : Container) : Step → Prop where
  /-- It was alive before, with the same contents. -/
  | kept {step : Step} {c : Container} (hc : s.container? n = some c) (h : SameContents c c') :
    Provenance s n c' step
  /-- It has been created. -/
  | created {handle : String} {model : Model} {c : Container} (hn : n = s.next)
    (hc : create model = .ok c) (h : SameContents c c') : Provenance s n c' (.create handle model)
  /-- It has been decoded. -/
  | decoded {handle : String} {model : Model} {values : List (String × Value)} {c : Container}
    (hn : n = s.next) (hc : decode model values = .ok c) (h : SameContents c c') :
    Provenance s n c' (.decode handle model values)
  /-- It has been written through a handle. -/
  | written {handle field : String} {value : Value} {c : Container}
    (ht : s.target? handle = some (n, c)) (hc : c.set field value = .ok c') :
    Provenance s n c' (.set handle field value)

theorem Preserves.provenance {step : Step} (h : Preserves s s') (hc : s'.container? n = some c') :
    Provenance s n c' step := by
  obtain ⟨c, hc, hsame⟩ := h n c' hc
  exact .kept hc hsame

/-- A container that is entered is the only one that is new. -/
theorem container?_enter {r : Except UsageError Container}
    (h : (s.enter handle r).value.2.container? n = some c') :
    (∃ c, s.container? n = some c ∧ SameContents c c') ∨
      ∃ c, r = .ok c ∧ n = s.next ∧ SameContents c c' := by
  cases r with
  | error e => exact .inl ⟨c', h, .refl c'⟩
  | ok c =>
    obtain ⟨d, hd, hsame⟩ := preserves_assign (s.add c) handle s.next n c' h
    rcases container?_add hd with hd | ⟨hn, rfl⟩
    · exact .inl ⟨d, hd, hsame⟩
    · exact .inr ⟨d, rfl, hn, hsame⟩

/-- **Every container that is alive after a step comes from somewhere.** -/
theorem provenance (step : Step) (h : (s.step step).value.2.container? n = some c') :
    Provenance s n c' step := by
  cases step with
  | create handle model =>
    rcases container?_enter h with ⟨c, hc, hsame⟩ | ⟨c, hr, hn, hsame⟩
    · exact .kept hc hsame
    · exact .created hn hr hsame
  | decode handle model values =>
    rcases container?_enter h with ⟨c, hc, hsame⟩ | ⟨c, hr, hn, hsame⟩
    · exact .kept hc hsame
    · exact .decoded hn hr hsame
  | retain handle second =>
    rw [step, retain] at h
    cases ht : s.target? handle with
    | none => exact (Preserves.refl s).provenance (by simpa [ht] using h)
    | some e =>
      obtain ⟨number, c⟩ := e
      have hc := (target?_eq_some_iff.1 ht).2
      have hp : Preserves s (s.replace number { c with count := c.count + 1 }) :=
        preserves_replace hc ⟨rfl, rfl⟩
      refine (hp.trans (preserves_assign _ second number)).provenance ?_
      simpa [ht] using h
  | release handle => exact (preserves_release s handle).provenance h
  | drop handle => exact (preserves_release s handle).provenance h
  | set handle field value =>
    cases ht : s.target? handle with
    | none =>
      rw [step_set_of_noHandle ht] at h
      exact (Preserves.refl s).provenance h
    | some e =>
      obtain ⟨number, d⟩ := e
      cases hs : d.set field value with
      | error e =>
        rw [step_set_of_error ht hs] at h
        exact (Preserves.refl s).provenance h
      | ok d' =>
        rw [step_set_of_ok ht hs, container?_replace] at h
        split_ifs at h with hn
        · -- the container of the handle is the one that has been written
          obtain ⟨_, -, rfl⟩ := Option.map_eq_some_iff.1 h
          exact .written (hn ▸ ht) hs
        · exact .kept h (.refl c')
  | _ => exact (Preserves.refl s).provenance h

theorem Balanced.number_lt (h : Balanced s pending) (hc : s.container? n = some c) : n < s.next :=
  h.fresh n (List.mem_map_of_mem (h.container?_eq_some_iff.1 hc))

/-- **A container that stays alive has its contents, unless it has been written in the step.** -/
theorem Balanced.contents (h : Balanced s []) {step : Step} (hc : s.container? n = some c)
    (hc' : (s.step step).value.2.container? n = some c') :
    SameContents c c' ∨ ∃ handle field value, step = .set handle field value ∧
      s.target? handle = some (n, c) ∧ c.set field value = .ok c' := by
  have hlt := h.number_lt hc
  cases provenance step hc' with
  | kept hd hsame =>
    rw [hc, Option.some.injEq] at hd
    exact .inl (hd ▸ hsame)
  | created hn | decoded hn =>
    -- a new container has a number that has not been given before
    exact absurd hn (Nat.ne_of_lt hlt)
  | @written handle field value d ht hs =>
    have hd := (target?_eq_some_iff.1 ht).2
    rw [hc, Option.some.injEq] at hd
    subst hd
    exact .inr ⟨handle, field, value, rfl, ht, hs⟩

/-- A container keeps its model. -/
theorem Balanced.model_eq (h : Balanced s []) {step : Step} (hc : s.container? n = some c)
    (hc' : (s.step step).value.2.container? n = some c') : c'.model = c.model := by
  rcases h.contents hc hc' with hsame | ⟨handle, field, value, -, -, hs⟩
  · exact hsame.model
  · obtain ⟨slots, -, -, rfl⟩ := set_eq_ok_iff.1 hs
    rfl

end Store

end TlvSchema
