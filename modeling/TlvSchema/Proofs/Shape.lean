import TlvSchema.FieldType.OfShape
import TlvSchema.Proofs.Logged

/-!
# Well-formed shapes

A shape has a type if and only if it is well formed (`exists_type?_iff`).  Whether it is well formed
depends neither on the container nor on the path that messages name it by, and parts of a shape that
its format has no use for are not looked at.
-/

namespace TlvSchema

/-! ### Formats -/

namespace Format

/-- The formats of values without parts. -/
def plainNames : List String :=
  ["guint8", "guint16", "guint32", "guint64", "gint8", "gint16", "gint32", "gint64", "guint-sized",
    "gboolean", "gfloat", "gdouble", "string"]

variable {name : String}

/-- **The names that are shown to the author of a schema are those that stand for a format.** -/
theorem mem_names_iff : name ∈ names ↔ ∃ f, ofName? name = some f := by
  fun_cases ofName? name <;> simp_all [names]

theorem mem_plainNames_iff :
    name ∈ plainNames ↔ ∃ f, ofName? name = some f ∧ f ≠ .array ∧ f ≠ .compound := by
  fun_cases ofName? name <;> simp_all [plainNames]

theorem ofName?_eq_array_iff : ofName? name = some .array ↔ name = "array" := by
  fun_cases ofName? name <;> simp_all

theorem ofName?_eq_compound_iff :
    ofName? name = some .compound ↔ name = "struct" ∨ name = "sequence" := by
  fun_cases ofName? name <;> simp_all

end Format

/-! ### Shapes -/

namespace Member

/-- The shape is that of a plain value, of an array with a well-formed element, or of a struct or
sequence with at least one member and none that is not well formed. -/
inductive WellFormed : Member → Prop
  | plain {m : Member} : m.format ∈ Format.plainNames → WellFormed m
  | array {m element : Member} :
    m.format = "array" → m.element = some element → WellFormed element → WellFormed m
  | compound {m : Member} :
    m.format = "struct" ∨ m.format = "sequence" → m.contents ≠ [] →
      (∀ part ∈ m.contents, WellFormed part) → WellFormed m

/-- What makes a shape well formed, by what its format stands for. -/
def FormatHolds (m : Member) : Option Format → Prop
  | none => False
  | some (.scalar _) | some .string => True
  | some .array => ∃ element, m.element = some element ∧ element.WellFormed
  | some .compound => m.contents ≠ [] ∧ ∀ part ∈ m.contents, part.WellFormed

theorem wellFormed_iff {m : Member} : m.WellFormed ↔ m.FormatHolds (Format.ofName? m.format) := by
  constructor
  · intro h
    cases h with
    | plain hf =>
      obtain ⟨f, hf, ha, hc⟩ := Format.mem_plainNames_iff.1 hf
      rw [hf]
      cases f <;> simp_all [FormatHolds]
    | array hf he hw =>
      rw [Format.ofName?_eq_array_iff.2 hf]
      exact ⟨_, he, hw⟩
    | compound hf hne hw =>
      rw [Format.ofName?_eq_compound_iff.2 hf]
      exact ⟨hne, hw⟩
  · intro h
    cases hf : Format.ofName? m.format with
    | none => simp [hf, FormatHolds] at h
    | some f =>
      rw [hf] at h
      cases f with
      | scalar kind => exact .plain (Format.mem_plainNames_iff.2 ⟨_, hf, by simp, by simp⟩)
      | string => exact .plain (Format.mem_plainNames_iff.2 ⟨_, hf, by simp, by simp⟩)
      | array =>
        obtain ⟨element, he, hw⟩ := h
        exact .array (Format.ofName?_eq_array_iff.1 hf) he hw
      | compound => exact .compound (Format.ofName?_eq_compound_iff.1 hf) h.1 h.2

theorem exists_types?_cons_iff {container path : String} {m : Member} {ms : List Member} :
    (∃ ts, types? container path (m :: ms) = .ok ts) ↔
      (∃ t, m.type? container (path ++ "." ++ m.name) = .ok t) ∧
        ∃ ts, types? container path ms = .ok ts := by
  simp only [types?, bind_eq_ok_iff, pure, Except.pure, Except.ok.injEq]
  constructor
  · rintro ⟨_, t, ht, ts, hts, -⟩
    exact ⟨⟨t, ht⟩, ts, hts⟩
  · rintro ⟨⟨t, ht⟩, ts, hts⟩
    exact ⟨_, t, ht, ts, hts, rfl⟩

mutual

/-- **A shape has a type if and only if it is well formed.** -/
theorem exists_type?_iff (container path : String) :
    ∀ m : Member, (∃ t, m.type? container path = .ok t) ↔ m.WellFormed
  | ⟨name, format, contents, element⟩ => by
    rw [wellFormed_iff, type?.eq_def]
    simp only
    cases hf : Format.ofName? format with
    | none => simp [FormatHolds]
    | some f =>
      cases f with
      | scalar kind => simp [FormatHolds]
      | string => simp [FormatHolds]
      | array =>
        cases element with
        | none => simp [FormatHolds]
        | some element =>
          have ih := exists_type?_iff container (path ++ "[]") element
          simp [FormatHolds, map_eq_ok_iff, ← ih, exists_comm]
      | compound =>
        cases contents with
        | nil => simp [FormatHolds]
        | cons member members =>
          have ih := exists_types?_iff container path (member :: members)
          simp only [FormatHolds, map_eq_ok_iff, ← ih]
          simp

/-- All members of a shape have types if and only if they are well formed. -/
theorem exists_types?_iff (container path : String) :
    ∀ ms : List Member, (∃ ts, types? container path ms = .ok ts) ↔ ∀ m ∈ ms, m.WellFormed
  | [] => by simp [types?]
  | member :: members => by
    rw [exists_types?_cons_iff, exists_type?_iff container (path ++ "." ++ member.name) member,
      exists_types?_iff container path members, List.forall_mem_cons]

end

end Member

end TlvSchema
