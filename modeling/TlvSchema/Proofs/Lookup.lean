import Mathlib

/-!
# Looking up a key

If the keys of a list are pairwise different, every member of the list is found under its key.  The
key may be the first part of a pair (`lookup_eq_some_iff_mem`) or be read off the members
(`find?_key_eq_some_iff`), which are then found at their own places (`findIdx?_key_eq_some_iff`).
-/

namespace TlvSchema

variable {κ α : Type} [BEq κ] [LawfulBEq κ] {l : List (κ × α)} {k : κ} {a : α}

theorem mem_of_lookup (h : l.lookup k = some a) : (k, a) ∈ l := by
  obtain ⟨l₁, l₂, rfl, -⟩ := List.lookup_eq_some_iff.1 h
  simp

theorem isSome_lookup_iff : (l.lookup k).isSome = true ↔ k ∈ l.map Prod.fst := by
  induction l with
  | nil => simp
  | cons e l ih =>
    rw [List.lookup_cons, List.map_cons, List.mem_cons]
    by_cases h : k = e.1
    · simp [h]
    · rw [beq_eq_false_iff_ne.2 h, ih]
      exact (or_iff_right h).symm

theorem lookup_eq_some_iff_mem (hl : (l.map Prod.fst).Nodup) :
    l.lookup k = some a ↔ (k, a) ∈ l := by
  refine ⟨mem_of_lookup, fun h => ?_⟩
  obtain ⟨l₁, l₂, rfl⟩ := List.append_of_mem h
  refine List.lookup_eq_some_iff.2 ⟨l₁, l₂, rfl, fun p hp => ?_⟩
  simp only [List.map_append, List.map_cons, List.nodup_append] at hl
  have hne := hl.2.2 p.1 (List.mem_map_of_mem hp) k List.mem_cons_self
  simpa using Ne.symm hne

theorem lookup_filter_ne [DecidableEq κ] (l : List (κ × α)) (b k : κ) :
    (l.filter (·.1 ≠ b)).lookup k = if k = b then none else l.lookup k := by
  induction l with
  | nil => simp
  | cons e l ih =>
    obtain ⟨a, x⟩ := e
    by_cases ha : a = b
    · subst ha
      by_cases hk : k = a
      · simpa [hk] using ih
      · simpa [List.lookup_cons, hk, beq_eq_false_iff_ne.2 hk] using ih
    · by_cases hk : k = a
      · simp [hk, ha]
      · simpa [List.lookup_cons, ha, beq_eq_false_iff_ne.2 hk] using ih

omit [BEq κ] [LawfulBEq κ] in
theorem filter_key_eq [DecidableEq κ] (hl : (l.map Prod.fst).Nodup) (h : (k, a) ∈ l) :
    l.filter (·.1 = k) = [(k, a)] := by
  obtain ⟨l₁, l₂, rfl⟩ := List.append_of_mem h
  simp only [List.map_append, List.map_cons, List.nodup_append, List.nodup_cons] at hl
  have h₁ : ∀ e ∈ l₁, e.1 ≠ k := fun e he =>
    hl.2.2 e.1 (List.mem_map_of_mem he) k List.mem_cons_self
  have h₂ : ∀ e ∈ l₂, e.1 ≠ k := fun e he heq => hl.2.1.1 (heq ▸ List.mem_map_of_mem he)
  rw [List.filter_append, List.filter_cons_of_pos (by simp),
    List.filter_eq_nil_iff.2 fun e he => by simpa using h₁ e he,
    List.filter_eq_nil_iff.2 fun e he => by simpa using h₂ e he]
  rfl

omit [BEq κ] [LawfulBEq κ] in
theorem find?_key_eq_some_iff [DecidableEq κ] {key : α → κ} {as : List α}
    (h : (as.map key).Nodup) : as.find? (key · = k) = some a ↔ a ∈ as ∧ key a = k := by
  constructor
  · exact fun hf => ⟨List.mem_of_find?_eq_some hf, by simpa using List.find?_some hf⟩
  · rintro ⟨ha, hk⟩
    have hs : (as.find? (key · = k)).isSome = true := List.find?_isSome.2 ⟨a, ha, by simpa using hk⟩
    obtain ⟨b, hb⟩ := Option.isSome_iff_exists.1 hs
    have hkb : key b = k := by simpa using List.find?_some hb
    rw [hb, List.inj_on_of_nodup_map h (List.mem_of_find?_eq_some hb) ha (hkb.trans hk.symm)]

omit [BEq κ] [LawfulBEq κ] in
theorem findIdx?_key_eq_some_iff [DecidableEq κ] {key : α → κ} {as : List α} {i : ℕ}
    (h : (as.map key).Nodup) :
    as.findIdx? (key · = k) = some i ↔ ∃ hi : i < as.length, key as[i] = k := by
  rw [List.findIdx?_eq_some_iff_getElem]
  constructor
  · rintro ⟨hi, hk, -⟩
    exact ⟨hi, by simpa using hk⟩
  · rintro ⟨hi, hk⟩
    refine ⟨hi, by simpa using hk, fun j hji hj => ?_⟩
    -- an earlier place would have the same key
    have hjl : j < as.length := Nat.lt_trans hji hi
    have he : key as[j] = key as[i] := (by simpa using hj : key as[j] = k).trans hk.symm
    have hij : j = i := (@List.Nodup.getElem_inj_iff _ _ h j (by simpa) i (by simpa)).1
      (by simpa using he)
    exact Nat.ne_of_lt hji hij

end TlvSchema
