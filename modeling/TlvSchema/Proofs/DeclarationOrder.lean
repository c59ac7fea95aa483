import TlvSchema.DeclarationOrder
import TlvSchema.Proofs.Logged
import TlvSchema.Proofs.Lookup

/-!
# Prerequisites and the order of declarations

The fields are put in order by a scan that adds one field after the other in front or behind.  From any
fields that are in order already it ends with these in the middle (`foldl_insertField`), which gives a
closed form of the whole order (`declarationOrder_eq`).  So a prerequisite is moved in front of the fields
that depend on it if it has no prerequisite itself; otherwise it stays before or after them as it was written
(`before_declarationOrder_iff`).  Fields with pairwise different names are reported exactly if their
prerequisite has a prerequisite (`chains_eq`), that is if they may come before it.
-/

namespace TlvSchema

variable {fields : List Field}

/-! ### The scan -/

theorem foldl_insertField (ordered : List Field) :
    fields.foldl insertField ordered =
      (fields.filter (·.prerequisite.isNone)).reverse ++ ordered ++
        fields.filter (·.prerequisite.isSome) := by
  induction fields generalizing ordered with
  | nil => simp
  | cons f fs ih =>
    rw [List.foldl_cons, ih]
    cases hp : f.prerequisite with
    | none => simp [insertField, hp]
    | some p => simp [insertField, hp]

/-- **The fields without a prerequisite come first, in reverse order; the others follow in order.** -/
theorem declarationOrder_eq (fields : List Field) :
    declarationOrder fields =
      (fields.filter (·.prerequisite.isNone)).reverse ++ fields.filter (·.prerequisite.isSome) := by
  rw [declarationOrder, foldl_insertField, List.append_nil]

/-! ### Places in a list -/

/-- The name `a` has a place before one of the name `b`. -/
def Before (names : List String) (a b : String) : Prop := [a, b].Sublist names

theorem declarationOrder_perm : (declarationOrder fields).Perm fields := by
  have hs : fields.filter (·.prerequisite.isSome) = fields.filter (!·.prerequisite.isNone) :=
    List.filter_congr fun f _ => by simp
  rw [declarationOrder_eq, hs]
  exact ((List.reverse_perm _).append_right _).trans (List.filter_append_perm _ _)

/-- In a list of fields with pairwise different names, a field is known by its name. -/
theorem eq_of_name_eq (hn : (fields.map (·.name)).Nodup) {f g : Field} (hf : f ∈ fields)
    (hg : g ∈ fields) (h : f.name = g.name) : f = g :=
  List.inj_on_of_nodup_map hn hf hg h

theorem before_map_iff (hn : (fields.map (·.name)).Nodup) {l : List Field} (hl : l ⊆ fields)
    {p f : Field} (hp : p ∈ fields) (hf : f ∈ fields) :
    Before (l.map (·.name)) p.name f.name ↔ [p, f].Sublist l := by
  constructor
  · intro h
    obtain ⟨_, hs, he⟩ := List.sublist_map_iff.1 h
    obtain ⟨p', _, rfl, hep, he⟩ := List.map_eq_cons_iff.1 he.symm
    obtain ⟨f', _, rfl, hef, he⟩ := List.map_eq_cons_iff.1 he
    rw [List.map_eq_nil_iff.1 he] at hs
    have hp' : p' ∈ l := hs.subset List.mem_cons_self
    have hf' : f' ∈ l := hs.subset (List.mem_cons_of_mem _ List.mem_cons_self)
    rwa [eq_of_name_eq hn (hl hp') hp hep, eq_of_name_eq hn (hl hf') hf hef] at hs
  · exact fun h => h.map _

/-- **A prerequisite comes before a field that depends on it if and only if it has no prerequisite
itself or it was written before the field.** -/
theorem before_declarationOrder_iff (hn : (fields.map (·.name)).Nodup) {p f : Field}
    (hp : p ∈ fields) (hf : f ∈ fields) (hd : f.prerequisite.isSome = true) :
    Before ((declarationOrder fields).map (·.name)) p.name f.name ↔
      p.prerequisite = none ∨ Before (fields.map (·.name)) p.name f.name := by
  rw [before_map_iff hn declarationOrder_perm.subset hp hf,
    before_map_iff hn (List.Subset.refl _) hp hf, declarationOrder_eq]
  have hf' : f ∈ fields.filter (·.prerequisite.isSome) := List.mem_filter.2 ⟨hf, hd⟩
  cases hq : p.prerequisite with
  | none =>
    have hp' : p ∈ (fields.filter (·.prerequisite.isNone)).reverse := by simp [hp, hq]
    simp only [true_or, iff_true]
    exact (List.singleton_sublist.2 hp').append (List.singleton_sublist.2 hf')
  | some q =>
    have hp' : p ∉ (fields.filter (·.prerequisite.isNone)).reverse := by simp [hq]
    simp only [reduceCtorEq, false_or]
    constructor
    · intro h
      obtain ⟨l₁, l₂, he, h₁, h₂⟩ := List.sublist_append_iff.1 h
      cases l₁ with
      | nil =>
        rw [List.nil_append] at he
        exact (he ▸ h₂).trans List.filter_sublist
      | cons a l₁ =>
        -- only fields without a prerequisite are moved to the front
        rw [List.cons_append, List.cons.injEq] at he
        exact absurd (h₁.subset (he.1 ▸ List.mem_cons_self)) hp'
    · intro h
      have h' := h.filter (·.prerequisite.isSome)
      simp only [List.filter_cons, hq, hd, Option.isSome_some, if_true, List.filter_nil] at h'
      exact h'.trans (List.sublist_append_right _ _)

/-! ### Reports -/

/-- The report that a field of a container calls for: its prerequisite has a prerequisite. -/
def Field.chain? (fields : List Field) (f : Field) : Option Event := do
  let prerequisite ← f.prerequisite
  let required ← fields.find? (·.name = prerequisite)
  let transitive ← required.prerequisite
  some (.chain f.name prerequisite transitive)

theorem lastOfEach_of_nodup {es : List (String × String)} (h : (es.map Prod.fst).Nodup) :
    lastOfEach es = es := by
  induction es with
  | nil => rfl
  | cons e es ih =>
    rw [List.map_cons, List.nodup_cons] at h
    have hany : es.any (·.1 = e.1) = false := by
      simp only [List.any_eq_false, decide_eq_true_eq]
      exact fun d hd he => h.1 (he ▸ List.mem_map_of_mem hd)
    rw [lastOfEach, hany, ih h.2]
    rfl

theorem map_fst_prerequisites_sublist :
    ((prerequisites fields).map Prod.fst).Sublist (fields.map (·.name)) := by
  have h : (prerequisites fields).map Prod.fst =
      (fields.filter (·.prerequisite.isSome)).map (·.name) := by
    unfold prerequisites
    induction fields with
    | nil => rfl
    | cons f fs ih => cases hp : f.prerequisite <;> simp [hp, ih]
  rw [h]
  exact List.filter_sublist.map _

theorem lookup_prerequisites (hn : (fields.map (·.name)).Nodup) (name : String) :
    (prerequisites fields).lookup name = (fields.find? (·.name = name)).bind (·.prerequisite) := by
  have hk : ((prerequisites fields).map Prod.fst).Nodup := hn.sublist map_fst_prerequisites_sublist
  refine Option.ext fun q => ?_
  rw [lookup_eq_some_iff_mem hk, Option.bind_eq_some_iff]
  simp only [prerequisites, List.mem_filterMap, Option.map_eq_some_iff, Prod.mk.injEq,
    find?_key_eq_some_iff hn]
  constructor
  · rintro ⟨f, hf, _, hq, rfl, rfl⟩
    exact ⟨f, ⟨hf, rfl⟩, hq⟩
  · rintro ⟨f, ⟨hf, rfl⟩, hq⟩
    exact ⟨f, hf, q, hq, rfl, rfl⟩

/-- **One report is made for each field whose prerequisite has a prerequisite.** -/
theorem chains_eq (hn : (fields.map (·.name)).Nodup) :
    chains fields = fields.filterMap (·.chain? fields) := by
  have hk : ((prerequisites fields).map Prod.fst).Nodup := hn.sublist map_fst_prerequisites_sublist
  unfold chains
  simp only [lastOfEach_of_nodup hk, lookup_prerequisites hn]
  rw [prerequisites, List.filterMap_filterMap]
  refine List.filterMap_congr fun f _ => ?_
  cases hp : f.prerequisite with
  | none => simp [Field.chain?, hp]
  | some p =>
    cases hg : fields.find? (·.name = p) with
    | none => simp [Field.chain?, hp, hg]
    | some g => cases hq : g.prerequisite <;> simp [Field.chain?, hp, hg, hq]

end TlvSchema
