import TlvSchema.Proofs.Bytes
import TlvSchema.Proofs.EditDistance
import TlvSchema.Proofs.Lookup
import TlvSchema.Proofs.ResolutionDefect

/-!
# Suggestions do not depend on any order

The candidates are compared by their distances, and by their bytes where these are equal.  That is a linear
order, so the candidate that is suggested is the least one, and the order in which the candidates are listed
and how often they are listed does not matter.  This is why a report on an unknown reference is the same for
every order that the common definitions may stand in.

* `best?_eq_some_iff` — the best of several texts is the least one
* `nearest?_eq_some_iff`, `isSome_nearest?_iff` — the nearest text, and when there is one
* `CommonTable.Reordered.resolveFields_eq` — resolution with a table in another order
* `suggestion_spec` — the text that is suggested
-/

namespace TlvSchema

namespace Text

/-! ### The best of several texts -/

variable {limit : ℕ} {name c : String} {candidates : List String}

theorem toLex_better (a b : ℕ × String) : toLex (better a b) = min (toLex a) (toLex b) := by
  rw [better]
  split_ifs with h
  · exact (min_eq_right (Prod.Lex.toLex_lt_toLex.2 h).le).symm
  · exact (min_eq_left (not_lt.1 fun hlt => h (Prod.Lex.toLex_lt_toLex.1 hlt))).symm

theorem toLex_foldl_better (cs : List (ℕ × String)) (b : ℕ × String) :
    toLex (cs.foldl better b) = (cs.map toLex).foldl min (toLex b) := by
  induction cs generalizing b with
  | nil => rfl
  | cons c cs ih => rw [List.foldl_cons, ih, toLex_better, List.map_cons, List.foldl_cons]

theorem best?_eq (cs : List (ℕ × String)) : best? cs = (cs.map toLex).min?.map ofLex := by
  cases cs with
  | nil => rfl
  | cons c cs =>
    rw [best?, List.map_cons, List.min?_cons', Option.map_some, ← toLex_foldl_better, ofLex_toLex]

/-- **The best of several texts is the least one.** -/
theorem best?_eq_some_iff {cs : List (ℕ × String)} {b : ℕ × String} :
    best? cs = some b ↔ b ∈ cs ∧ ∀ d ∈ cs, b.1 < d.1 ∨ b.1 = d.1 ∧ b.2 ≤ d.2 := by
  have hmin : best? cs = some b ↔ (cs.map toLex).min? = some (toLex b) := by
    rw [best?_eq, Option.map_eq_some_iff]
    constructor
    · rintro ⟨m, hm, rfl⟩
      exact hm
    · exact fun h => ⟨toLex b, h, rfl⟩
  rw [hmin, List.min?_eq_some_iff, List.mem_map_of_injective toLex.injective]
  simp only [List.forall_mem_map, Prod.Lex.toLex_le_toLex]

/-! ### The nearest text -/

/-- The first text is the nearer one to a name, or as near as the second one and not after it in the order
of their bytes. -/
def Preferred (name a b : String) : Prop :=
  editDistance name a < editDistance name b ∨
    editDistance name a = editDistance name b ∧ bytes a ≤ bytes b

/-- The candidates within the limit, each with its distance. -/
theorem mem_measured_iff {p : ℕ × String} :
    p ∈ (candidates.map fun a => (editDistance name a, a)).filter (fun p => p.1 ≤ limit) ↔
      ∃ a ∈ candidates, editDistance name a ≤ limit ∧ p = (editDistance name a, a) := by
  rw [List.mem_filter, List.mem_map, decide_eq_true_eq]
  constructor
  · rintro ⟨⟨a, ha, rfl⟩, hle⟩
    exact ⟨a, ha, hle, rfl⟩
  · rintro ⟨a, ha, hle, rfl⟩
    exact ⟨⟨a, ha, rfl⟩, hle⟩

/-- **The nearest text is within the limit and preferred to all others.** -/
theorem nearest?_eq_some_iff : nearest? limit name candidates = some c ↔
    c ∈ candidates ∧ editDistance name c ≤ limit ∧ ∀ a ∈ candidates, Preferred name c a := by
  simp only [nearest?, Option.map_eq_some_iff, best?_eq_some_iff, mem_measured_iff, Preferred,
    bytes_le_bytes_iff]
  constructor
  · rintro ⟨_, ⟨⟨c, hc, hle, rfl⟩, hleast⟩, rfl⟩
    refine ⟨hc, hle, fun a ha => ?_⟩
    by_cases hnear : editDistance name a ≤ limit
    · exact hleast _ ⟨a, ha, hnear, rfl⟩
    · exact .inl (hle.trans_lt (not_le.1 hnear))
  · rintro ⟨hc, hle, hleast⟩
    refine ⟨_, ⟨⟨c, hc, hle, rfl⟩, ?_⟩, rfl⟩
    rintro _ ⟨a, ha, -, rfl⟩
    exact hleast a ha

theorem best?_eq_none_iff {cs : List (ℕ × String)} : best? cs = none ↔ cs = [] := by
  cases cs <;> simp [best?]

/-- **There is a nearest text if and only if one is within the limit.** -/
theorem isSome_nearest?_iff :
    (nearest? limit name candidates).isSome ↔ ∃ a ∈ candidates, editDistance name a ≤ limit := by
  rw [nearest?, Option.isSome_map, Option.isSome_iff_ne_none, ne_eq, best?_eq_none_iff,
    List.eq_nil_iff_forall_not_mem]
  simp only [mem_measured_iff, not_forall, not_not]
  constructor
  · rintro ⟨_, a, ha, hle, rfl⟩
    exact ⟨a, ha, hle⟩
  · rintro ⟨a, ha, hle⟩
    exact ⟨_, a, ha, hle, rfl⟩

theorem suggestion?_congr {others : List String} (h : ∀ a, a ∈ others ↔ a ∈ candidates) :
    suggestion? name others = suggestion? name candidates := by
  refine Option.ext fun c => ?_
  simp only [suggestion?, nearest?_eq_some_iff, h]

end Text

/-! ### Tables in another order -/

namespace CommonTable

variable {t t' : CommonTable} {container : String}

/-- The tables have the same definitions, perhaps in another order. -/
def Reordered (t t' : CommonTable) : Prop := t.entries.Perm t'.entries

theorem Reordered.get?_eq (h : t.Reordered t') (reference : String) :
    t.get? reference = t'.get? reference := by
  refine Option.ext fun field => ?_
  rw [get?, get?, lookup_eq_some_iff_mem t.nodup, lookup_eq_some_iff_mem t'.nodup]
  exact h.mem_iff

theorem Reordered.suggestion?_eq (h : t.Reordered t') (reference : String) :
    Text.suggestion? reference t.references = Text.suggestion? reference t'.references :=
  Text.suggestion?_congr fun _ => (h.map Prod.fst).mem_iff

theorem Reordered.resolve_eq (h : t.Reordered t') (index : ℕ) (e : FieldEntry) :
    e.resolve container t index = e.resolve container t' index := by
  unfold FieldEntry.resolve
  cases e.reference with
  | none => rfl
  | some reference =>
    dsimp only
    rw [h.get?_eq, h.suggestion?_eq]

/-- **The order of the common definitions does not matter to the entries of a container.** -/
theorem Reordered.resolveFields_eq (h : t.Reordered t') (entries : List FieldEntry) :
    resolveFields container entries t = resolveFields container entries t' := by
  have hfrom (index : ℕ) : resolveFrom container t index entries =
      resolveFrom container t' index entries := by
    induction entries generalizing index with
    | nil => rfl
    | cons e es ih => rw [resolveFrom, resolveFrom, h.resolve_eq, ih]
  rw [resolveFields, resolveFields, hfrom]

end CommonTable

/-- The suggestion in a report is the one for the references of the table. -/
theorem suggestion_of_resolveFields {container field reference : String} {s : Option String}
    {entries : List FieldEntry} {t : CommonTable} {c : String}
    (h : resolveFields container entries t = .error (.unknownReference c field reference s)) :
    s = Text.suggestion? reference t.references := by
  generalize hd : SchemaError.unknownReference c field reference s = d at h
  cases resolveFields_eq_error_iff.1 h with
  | unknownReference hp hbefore hr ht =>
    cases hd
    rfl
  | missingAttribute => cases hd
  | fields _ hreported => cases hreported <;> cases hd

namespace Text

/-- **The text that is suggested for a name.**  One is suggested if and only if a candidate is within a
third of the name's length in bytes, and at least one, of the name, counted in single-character edits.  It is
the nearest candidate, and of equally near ones the first one by its bytes.  How the candidates are ordered
and repeated does not matter, and so reports on unknown references do not depend on the order of the common
definitions. -/
theorem suggestion_spec (name : String) (candidates : List String) :
    (∀ c, IsLeast {n | Edits name.toList c.toList n} (editDistance name c)) ∧
    ((suggestion? name candidates).isSome ↔
      ∃ c ∈ candidates, editDistance name c ≤ max 1 ((bytes name).length / 3)) ∧
    (∀ c, suggestion? name candidates = some c → c ∈ candidates ∧
      ∀ a ∈ candidates, editDistance name c < editDistance name a ∨
        editDistance name c = editDistance name a ∧ bytes c ≤ bytes a) ∧
    (∀ others : List String, (∀ a, a ∈ others ↔ a ∈ candidates) →
      suggestion? name others = suggestion? name candidates) ∧
    ∀ (container : String) (entries : List FieldEntry) (t t' : CommonTable),
      t.entries.Perm t'.entries →
        resolveFields container entries t = resolveFields container entries t' ∧
        ∀ c field reference s, resolveFields container entries t =
          .error (.unknownReference c field reference s) → s = suggestion? reference t.references := by
  refine ⟨fun c => isLeast_editDistance name c, ?_, fun c h => ?_, fun others => suggestion?_congr,
    fun container entries t t' h => ⟨CommonTable.Reordered.resolveFields_eq h entries, ?_⟩⟩
  · rw [length_bytes, max_comm]
    exact isSome_nearest?_iff
  · obtain ⟨hc, -, hleast⟩ := nearest?_eq_some_iff.1 h
    exact ⟨hc, hleast⟩
  · exact fun c field reference s => suggestion_of_resolveFields

/-- Two definitions whose references are equally near to `Fo`. -/
def nearTable : CommonTable :=
  ⟨[("Fox", ⟨"A", ⟨1⟩, "guint8", none, [], none⟩), ("Foo", ⟨"B", ⟨2⟩, "guint8", none, [], none⟩)],
    by decide⟩

/-- The same definitions the other way round. -/
def nearTableReversed : CommonTable :=
  ⟨[("Foo", ⟨"B", ⟨2⟩, "guint8", none, [], none⟩), ("Fox", ⟨"A", ⟨1⟩, "guint8", none, [], none⟩)],
    by decide⟩

theorem suggestion_spec_nearTable :
    (suggestion? "Fo" ["Bar", "Fox", "Foo"] = some "Foo" ∧ bytes "Foo" ≤ bytes "Fox") ∧
    suggestion? "Fo" ["Foo", "Fox", "Bar", "Foo"] = some "Foo" ∧
    resolveFields "Msg A Input" [⟨"", none, none, some "Fo", none, [], none⟩] nearTableReversed =
      .error (.unknownReference "Msg A Input" "#1" "Fo" (some "Foo")) := by
  obtain ⟨-, -, hleast, hothers, htables⟩ := suggestion_spec "Fo" ["Bar", "Fox", "Foo"]
  have hfirst : suggestion? "Fo" ["Bar", "Fox", "Foo"] = some "Foo" := by decide +kernel
  refine ⟨⟨hfirst, ?_⟩, ?_, ?_⟩
  · rcases (hleast "Foo" hfirst).2 "Fox" (by decide) with hnearer | ⟨-, hle⟩
    · exact absurd hnearer (by decide +kernel)
    · exact hle
  · have hsame (a : String) : a ∈ ["Foo", "Fox", "Bar", "Foo"] ↔ a ∈ ["Bar", "Fox", "Foo"] := by
      simp only [List.mem_cons, List.not_mem_nil]
      tauto
    rw [hothers _ hsame]
    exact hfirst
  · have hnear : suggestion? "Fo" nearTable.references = some "Foo" := by decide +kernel
    rw [← (htables "Msg A Input" _ nearTable nearTableReversed (.swap _ _ [])).1, ← hnear]
    rfl

end Text

end TlvSchema
