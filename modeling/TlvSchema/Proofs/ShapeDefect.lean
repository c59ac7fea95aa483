import TlvSchema.Proofs.FirstFailure
import TlvSchema.Proofs.Shape

/-!
# Which defect of a shape is reported

A shape is looked at in depth-first pre-order, a node before its parts, and the first node with a flaw of
its own is reported by its path.  Parts of a node that its format has no use for are not looked at.

* `nodes` — the nodes that are looked at, with their paths
* `Sound`, `Flaw` — what is in order with a node by itself, and what is not
* `FirstFlaw` — the flaw of the first of several nodes that has one
* `type?_eq_error_iff` — a shape has no type because of the first flaw of its nodes
* `wellFormed_iff_forall_sound` — a shape is well formed if and only if its nodes have no flaws
-/

namespace TlvSchema

namespace Member

/-! ### Nodes -/

mutual

/-- The nodes of the shape at a path, with their paths, in depth-first pre-order: the shape itself, and
then the nodes of the element of an array, or those of the contents of a struct or sequence. -/
def nodes (path : String) : Member → List (String × Member)
  | ⟨name, format, contents, element⟩ =>
    (path, ⟨name, format, contents, element⟩) ::
      if format = "array" then
        match element with
        | none => []
        | some element => nodes (path ++ "[]") element
      else if format = "struct" ∨ format = "sequence" then nodesAll path contents
      else []

/-- The nodes of the members of the shape at a path. -/
def nodesAll (path : String) : List Member → List (String × Member)
  | [] => []
  | member :: members => nodes (path ++ "." ++ member.name) member ++ nodesAll path members

end

/-- Nothing is wrong with the node by itself. -/
structure Sound (m : Member) : Prop where
  /-- The format is one of those that a schema may name. -/
  format : m.format ∈ Format.names
  /-- An array has an element. -/
  element : m.format = "array" → m.element ≠ none
  /-- A struct or sequence has contents. -/
  contents : m.format = "struct" ∨ m.format = "sequence" → m.contents ≠ []

/-- What is wrong with the node at a path by itself. -/
inductive Flaw (container path : String) (m : Member) : SchemaError → Prop
  /-- The format is not one of those that a schema may name. -/
  | unknownFormat : m.format ∉ Format.names →
    Flaw container path m (.unknownFormat container path m.format)
  /-- An array has no element. -/
  | missingElement : m.format = "array" → m.element = none →
    Flaw container path m (.missingElement container path)
  /-- A struct or sequence has no contents. -/
  | emptyCompound : m.format = "struct" ∨ m.format = "sequence" → m.contents = [] →
    Flaw container path m (.emptyCompound container path m.format)

/-- The first of the nodes with a flaw has this one. -/
def FirstFlaw (container : String) (ns : List (String × Member)) (d : SchemaError) : Prop :=
  ∃ before n, before ++ [n] <+: ns ∧ (∀ b ∈ before, b.2.Sound) ∧ n.2.Flaw container n.1 d

variable {container path : String} {m : Member} {n : String × Member}
  {ns ns' : List (String × Member)} {d : SchemaError}

/-! ### Flaws -/

theorem exists_flaw_iff : (∃ d, m.Flaw container path d) ↔ ¬ m.Sound := by
  constructor
  · rintro ⟨d, h⟩ hs
    cases h with
    | unknownFormat hf => exact hf hs.format
    | missingElement hf he => exact hs.element hf he
    | emptyCompound hf hc => exact hs.contents hf hc
  · intro hs
    by_contra hno
    refine hs ⟨?_, fun hf he => hno ⟨_, .missingElement hf he⟩,
      fun hf hc => hno ⟨_, .emptyCompound hf hc⟩⟩
    by_contra hf
    exact hno ⟨_, .unknownFormat hf⟩

theorem firstFlaw_cons_iff : FirstFlaw container (n :: ns) d ↔
    n.2.Flaw container n.1 d ∨ n.2.Sound ∧ FirstFlaw container ns d := by
  unfold FirstFlaw
  rw [exists_first_cons_iff]
  simp only [List.forall_mem_cons, List.not_mem_nil, false_imp_iff, implies_true, true_and, and_assoc,
    and_left_comm (b := n.2.Sound), exists_and_left]

theorem firstFlaw_append_iff : FirstFlaw container (ns ++ ns') d ↔
    FirstFlaw container ns d ∨ (∀ n ∈ ns, n.2.Sound) ∧ FirstFlaw container ns' d := by
  unfold FirstFlaw
  rw [exists_first_append_iff]
  simp only [List.forall_mem_append, and_assoc, and_left_comm (b := ∀ n ∈ ns, n.2.Sound),
    exists_and_left]

theorem not_firstFlaw_nil : ¬ FirstFlaw container [] d := not_exists_first_nil

/-- There is a first flaw unless all nodes are sound. -/
theorem exists_firstFlaw_iff : (∃ d, FirstFlaw container ns d) ↔ ¬ ∀ n ∈ ns, n.2.Sound := by
  induction ns with
  | nil => simp [not_firstFlaw_nil]
  | cons n ns ih =>
    simp only [firstFlaw_cons_iff, exists_or, exists_flaw_iff, exists_and_left, ih, List.forall_mem_cons]
    tauto

/-! ### Flaws by format -/

theorem flaw_iff : m.Flaw container path d ↔
    match Format.ofName? m.format with
    | none => .unknownFormat container path m.format = d
    | some .array => m.element = none ∧ .missingElement container path = d
    | some .compound => m.contents = [] ∧ .emptyCompound container path m.format = d
    | some (.scalar _) | some .string => False := by
  have hnames := @Format.mem_names_iff m.format
  have harray := @Format.ofName?_eq_array_iff m.format
  have hcompound := @Format.ofName?_eq_compound_iff m.format
  constructor
  · intro h
    cases h with
    | unknownFormat hf =>
      have hnone : Format.ofName? m.format = none := by
        simpa [hnames, Option.eq_none_iff_forall_ne_some] using hf
      rw [hnone]
    | missingElement hf he =>
      rw [harray.2 hf]
      exact ⟨he, rfl⟩
    | emptyCompound hf hc =>
      rw [hcompound.2 hf]
      exact ⟨hc, rfl⟩
  · intro h
    split at h
    case h_1 hf =>
      subst h
      exact .unknownFormat (by simp [hnames, hf])
    case h_2 hf =>
      obtain ⟨he, rfl⟩ := h
      exact .missingElement (harray.1 hf) he
    case h_3 hf =>
      obtain ⟨hc, rfl⟩ := h
      exact .emptyCompound (hcompound.1 hf) hc
    all_goals exact h.elim

theorem sound_iff : m.Sound ↔
    match Format.ofName? m.format with
    | none => False
    | some .array => m.element ≠ none
    | some .compound => m.contents ≠ []
    | some (.scalar _) | some .string => True := by
  have hsound : m.Sound ↔ ∀ d, ¬ m.Flaw "" "" d := by
    rw [← not_exists, exists_flaw_iff, not_not]
  rw [hsound]
  simp only [flaw_iff]
  split <;> simp

theorem nodes_eq : m.nodes path = (path, m) ::
    match Format.ofName? m.format with
    | some .array => m.element.elim [] (nodes (path ++ "[]"))
    | some .compound => nodesAll path m.contents
    | none | some (.scalar _) | some .string => [] := by
  obtain ⟨name, format, contents, element⟩ := m
  rw [nodes.eq_def]
  simp only
  split_ifs with ha hc
  · rw [Format.ofName?_eq_array_iff.2 ha]
    cases element <;> rfl
  · rw [Format.ofName?_eq_compound_iff.2 hc]
  · rw [← Format.ofName?_eq_array_iff] at ha
    rw [← Format.ofName?_eq_compound_iff] at hc
    cases hf : Format.ofName? format with
    | none => rfl
    | some f => cases f <;> simp_all

mutual

/-- **A shape has no type because of the first flaw of its nodes.** -/
theorem type?_eq_error_iff (container : String) : ∀ (m : Member) (path : String) (d : SchemaError),
    m.type? container path = .error d ↔ FirstFlaw container (m.nodes path) d
  | ⟨name, format, contents, element⟩, path, d => by
    rw [nodes_eq, firstFlaw_cons_iff, flaw_iff, sound_iff, type?.eq_def]
    simp only
    cases Format.ofName? format with
    | none => simp
    | some f =>
      cases f with
      | scalar kind => simp [not_firstFlaw_nil]
      | string => simp [not_firstFlaw_nil]
      | array =>
        cases element with
        | none => simp
        | some element =>
          have ih := type?_eq_error_iff container element (path ++ "[]") d
          simp [map_eq_error_iff, ih]
      | compound =>
        cases contents with
        | nil => simp
        | cons member members =>
          have ih := types?_eq_error_iff container (member :: members) path d
          simp [map_eq_error_iff, ih]

/-- Members have no types because of the first flaw of their nodes. -/
theorem types?_eq_error_iff (container : String) :
    ∀ (ms : List Member) (path : String) (d : SchemaError),
      types? container path ms = .error d ↔ FirstFlaw container (nodesAll path ms) d
  | [], path, d => by simp [types?, nodesAll, not_firstFlaw_nil]
  | member :: members, path, d => by
    have ih := type?_eq_error_iff container member (path ++ "." ++ member.name)
    -- the members after the first one count only if that has no flaws
    have hok : (∃ t, member.type? container (path ++ "." ++ member.name) = .ok t) ↔
        ∀ n ∈ member.nodes (path ++ "." ++ member.name), n.2.Sound := by
      simp only [exists_eq_ok_iff, ih, exists_firstFlaw_iff, not_not]
    rw [types?, nodesAll, firstFlaw_append_iff, bind_eq_error_iff, ih, ← hok,
      ← types?_eq_error_iff container members path d]
    simp only [bind_eq_error_iff, pure, Except.pure, reduceCtorEq, and_false, exists_false, or_false,
      exists_and_right]

end

/-- **A shape is well formed if and only if its nodes have no flaws.** -/
theorem wellFormed_iff_forall_sound (path : String) (m : Member) :
    m.WellFormed ↔ ∀ n ∈ m.nodes path, n.2.Sound := by
  rw [← exists_type?_iff "" path]
  simp only [exists_eq_ok_iff, type?_eq_error_iff, exists_firstFlaw_iff, not_not]

end Member

end TlvSchema
