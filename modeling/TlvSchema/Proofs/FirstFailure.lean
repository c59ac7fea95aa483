import TlvSchema.Proofs.Logged

/-!
# The first failure of a scan

A scan of a list that ends at the first element with a defect reports that element.  Here an element
comes first among those with a defect if the list begins with some elements that have none, followed by
the element: `before ++ [a] <+: as`.

* `exists_first_cons_iff`, `exists_first_append_iff` — the first one of a list in parts
* `findSome?_eq_some_iff_first` — what is found is found at the first element at which there is something
* `mapM_eq_error_iff` — a step done for all elements of a list fails as it does for the first one for
  which it fails
* `filter_key_eq_singleton_iff` — where keys are pairwise different, the first one with a key is the
  only one
-/

namespace TlvSchema

variable {ε α β : Type}

/-! ### First elements -/

section

variable {Q : List α → α → Prop} {a : α} {as bs : List α}

theorem not_exists_first_nil : ¬ ∃ before x, before ++ [x] <+: ([] : List α) ∧ Q before x := by
  rintro ⟨before, x, hp, -⟩
  simp at hp

theorem exists_first_cons_iff :
    (∃ before x, before ++ [x] <+: a :: as ∧ Q before x) ↔
      Q [] a ∨ ∃ before x, before ++ [x] <+: as ∧ Q (a :: before) x := by
  constructor
  · rintro ⟨before, x, hp, hq⟩
    cases before with
    | nil =>
      obtain ⟨rfl, -⟩ := List.cons_prefix_cons.1 hp
      exact .inl hq
    | cons b before =>
      obtain ⟨rfl, htail⟩ := List.cons_prefix_cons.1 hp
      exact .inr ⟨before, x, htail, hq⟩
  · rintro (hq | ⟨before, x, hp, hq⟩)
    · exact ⟨[], a, by simp, hq⟩
    · exact ⟨a :: before, x, by simpa using hp, hq⟩

theorem exists_first_append_iff :
    (∃ before x, before ++ [x] <+: as ++ bs ∧ Q before x) ↔
      (∃ before x, before ++ [x] <+: as ∧ Q before x) ∨
        ∃ before x, before ++ [x] <+: bs ∧ Q (as ++ before) x := by
  induction as generalizing Q with
  | nil => simp only [List.nil_append, not_exists_first_nil, false_or]
  | cons a as ih =>
    rw [List.cons_append, exists_first_cons_iff, ih, exists_first_cons_iff, or_assoc]
    rfl

theorem findSome?_eq_some_iff_first {f : α → Option β} {b : β} :
    as.findSome? f = some b ↔
      ∃ before a, before ++ [a] <+: as ∧ (∀ x ∈ before, f x = none) ∧ f a = some b := by
  rw [List.findSome?_eq_some_iff]
  constructor
  · rintro ⟨before, a, after, rfl, ha, hbefore⟩
    exact ⟨before, a, ⟨after, by simp⟩, hbefore, ha⟩
  · rintro ⟨before, a, ⟨after, rfl⟩, hbefore, ha⟩
    exact ⟨before, a, after, by simp, ha, hbefore⟩

end

/-! ### Steps that may fail -/

section

variable {x : Except ε α} {e : ε}

theorem exists_eq_ok_iff : (∃ a, x = .ok a) ↔ ¬ ∃ e, x = .error e := by
  cases x <;> simp

theorem bind_eq_error_iff {f : α → Except ε β} :
    x >>= f = .error e ↔ x = .error e ∨ ∃ a, x = .ok a ∧ f a = .error e := by
  cases x <;> simp [bind, Except.bind]

theorem map_eq_error_iff {f : α → β} : f <$> x = .error e ↔ x = .error e := by
  cases x <;> simp [Functor.map, Except.map]

theorem mapError_eq_error_iff {ε' : Type} {f : ε → ε'} {e' : ε'} :
    x.mapError f = .error e' ↔ ∃ e, x = .error e ∧ f e = e' := by
  cases x <;> simp [Except.mapError]

theorem mapM_eq_error_iff {f : α → Except ε β} {as : List α} :
    as.mapM f = .error e ↔
      ∃ before a, before ++ [a] <+: as ∧ (∀ b ∈ before, ∃ c, f b = .ok c) ∧ f a = .error e := by
  induction as with
  | nil => simp [pure, Except.pure]
  | cons a as ih =>
    rw [List.mapM_cons, bind_eq_error_iff, exists_first_cons_iff]
    simp only [bind_eq_error_iff, ih, List.forall_mem_cons, pure, Except.pure, reduceCtorEq, and_false,
      exists_false, or_false, List.not_mem_nil, false_imp_iff, implies_true, true_and]
    refine or_congr_right ⟨?_, ?_⟩
    · rintro ⟨b, hb, before, x, hp, hbefore, hx⟩
      exact ⟨before, x, hp, ⟨⟨b, hb⟩, hbefore⟩, hx⟩
    · rintro ⟨before, x, hp, ⟨⟨b, hb⟩, hbefore⟩, hx⟩
      exact ⟨b, hb, before, x, hp, hbefore, hx⟩

end

/-! ### Keys -/

section

variable {κ : Type} [DecidableEq κ] {key : α → κ} {k : κ} {a : α} {as : List α}

theorem filter_key_eq_singleton_iff (h : (as.map key).Nodup) :
    as.filter (key · = k) = [a] ↔ as.find? (key · = k) = some a := by
  constructor
  · intro hf
    rw [← List.head?_filter, hf, List.head?_cons]
  · intro hf
    have hk : ∀ b ∈ as.filter (key · = k), key b = k := fun b hb => by
      simpa using List.of_mem_filter hb
    have hn : ((as.filter (key · = k)).map key).Nodup := h.sublist (List.filter_sublist.map key)
    rw [← List.head?_filter] at hf
    cases hl : as.filter (key · = k) with
    | nil => simp [hl] at hf
    | cons b bs =>
      rw [hl] at hf hk hn
      rw [List.head?_cons, Option.some.injEq] at hf
      cases bs with
      | nil => rw [hf]
      | cons c cs =>
        -- two elements would have the key
        have hb : key b = k := hk b (by simp)
        have hc : key c = k := hk c (by simp)
        simp [hb, hc] at hn

end

end TlvSchema
