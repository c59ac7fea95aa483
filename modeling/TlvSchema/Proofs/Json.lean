import TlvSchema.Json.Parser
import TlvSchema.Proofs.Logged
import TlvSchema.Proofs.Lookup
import TlvSchema.Schema.Entry

/-!
# Objects and their keys

An object keeps its entries in ascending order of the keys, and of two entries with one key the last
one counts.  So no key occurs twice in an object that is read from a text, and a part of a record is
read from the one value that the object has for it.

* `Json.ofEntries_distinctKeys` — no key occurs twice
* `Json.distinctKeys_of_parseArray` — nor does one in the objects of an array that is read
* `Json.Record.part_of_ofEntries` — a part of a record, by the value of its key
* `MessageEntry.type_of_ofJson`, `FieldEntry.reference_of_ofJson` — two such parts
-/

namespace TlvSchema

namespace Json

/-! ### Distinct keys -/

/-- No key of the object occurs twice. -/
def DistinctKeys (j : Json) : Prop :=
  ∀ entries, j = .object entries → (entries.map Prod.fst).Nodup

variable {key : String} {value : Json} {entries : List (String × Json)}

theorem eq_or_mem_of_mem_insertEntry {e : String × Json} (h : e ∈ insertEntry key value entries) :
    e = (key, value) ∨ e ∈ entries := by
  induction entries with
  | nil => exact .inl (List.mem_singleton.1 h)
  | cons e' entries ih =>
    rw [insertEntry] at h
    split_ifs at h with hlt heq
    · exact List.mem_cons.1 h
    · exact (List.mem_cons.1 h).imp_right (List.mem_cons_of_mem e')
    · rcases List.mem_cons.1 h with rfl | h
      · exact .inr List.mem_cons_self
      · exact (ih h).imp_right (List.mem_cons_of_mem e')

theorem pairwise_insertEntry (h : entries.Pairwise (·.1 < ·.1)) :
    (insertEntry key value entries).Pairwise (·.1 < ·.1) := by
  induction entries with
  | nil => exact List.pairwise_singleton _ _
  | cons e entries ih =>
    obtain ⟨he, hes⟩ := List.pairwise_cons.1 h
    rw [insertEntry]
    split_ifs with hlt heq
    · refine List.pairwise_cons.2 ⟨fun e' he' => ?_, h⟩
      rcases List.mem_cons.1 he' with rfl | he'
      · exact hlt
      · exact hlt.trans (he e' he')
    · exact List.pairwise_cons.2 ⟨fun e' he' => heq ▸ he e' he', hes⟩
    · refine List.pairwise_cons.2 ⟨fun e' he' => ?_, ih hes⟩
      rcases eq_or_mem_of_mem_insertEntry he' with rfl | he'
      · exact lt_of_le_of_ne (not_lt.1 hlt) (Ne.symm heq)
      · exact he e' he'

theorem pairwise_foldl_insertEntry (added : List (String × Json))
    (h : entries.Pairwise (·.1 < ·.1)) :
    (added.foldl (fun es e => insertEntry e.1 e.2 es) entries).Pairwise (·.1 < ·.1) := by
  induction added generalizing entries with
  | nil => exact h
  | cons e added ih => exact ih (pairwise_insertEntry h)

/-- **No key occurs twice in an object that is made of entries.** -/
theorem ofEntries_distinctKeys (added : List (String × Json)) : (ofEntries added).DistinctKeys := by
  rintro entries ⟨⟩
  exact List.pairwise_map.2 ((pairwise_foldl_insertEntry added .nil).imp ne_of_lt)

theorem distinctKeys_array (items : List Json) : (array items).DistinctKeys := nofun

/-! ### Values that are read -/

namespace Parser

variable {α β : Type}

/-- Whatever is read has the property. -/
def Ensures (p : Parser α) (P : α → Prop) : Prop :=
  ∀ cursor a cursor', p cursor = .ok (a, cursor') → P a

variable {P : α → Prop} {Q : β → Prop} {item : Parser Json} {R : Json → Prop}

theorem ensures_pure {a : α} (h : P a) : Ensures (pure a) P := by
  rintro cursor _ _ ⟨⟩
  exact h

theorem ensures_failAfter (bytes : ℕ) (fault : Fault) : Ensures (failAfter bytes fault) P := nofun

theorem ensures_fail (fault : Fault) : Ensures (fail fault) P := nofun

theorem ensures_bind {p : Parser α} {f : α → Parser β} (hp : Ensures p P)
    (hf : ∀ a, P a → Ensures (f a) Q) : Ensures (p >>= f) Q := by
  intro cursor b cursor' h
  obtain ⟨⟨a, middle⟩, ha, hb⟩ := bind_eq_ok_iff.1 h
  exact hf a (hp cursor a middle ha) middle b cursor' hb

theorem ensures_then {p : Parser α} {f : α → Parser β} (hf : ∀ a, Ensures (f a) Q) :
    Ensures (p >>= f) Q :=
  ensures_bind (fun _ _ _ _ => trivial : Ensures p fun _ => True) fun a _ => hf a

theorem ensures_map {p : Parser α} {f : α → β} (h : ∀ a, Q (f a)) : Ensures (f <$> p) Q := by
  rw [← bind_pure_comp]
  exact ensures_then fun a => ensures_pure (h a)

/-- The items of an array have what each item has. -/
theorem ensures_moreItems (h : Ensures item R) (fuel : ℕ) :
    Ensures (moreItems item fuel) fun values => ∀ v ∈ values, R v := by
  induction fuel with
  | zero => exact ensures_fail _
  | succ fuel ih =>
    rw [moreItems]
    refine ensures_then fun token => ?_
    split
    · exact ensures_fail _
    · exact ensures_then fun _ => ensures_pure (List.forall_mem_nil _)
    · refine ensures_then fun _ => ensures_then fun next => ?_
      split
      · exact ensures_fail _
      · exact ensures_fail _
      · refine ensures_bind h fun v hv => ensures_bind ih fun values hvalues => ?_
        exact ensures_pure (List.forall_mem_cons.2 ⟨hv, hvalues⟩)
    · exact ensures_fail _

theorem ensures_items (h : Ensures item R) :
    Ensures (items item) fun values => ∀ v ∈ values, R v := by
  refine ensures_then fun token => ?_
  split
  · exact ensures_fail _
  · exact ensures_then fun _ => ensures_pure (List.forall_mem_nil _)
  · refine ensures_bind h fun v hv => ensures_then fun cursor => ?_
    refine ensures_bind (ensures_moreItems h _) fun values hvalues => ?_
    exact ensures_pure (List.forall_mem_cons.2 ⟨hv, hvalues⟩)

end Parser

/-- A number is no object. -/
theorem Numeral.distinctKeys_of_value? {n : Numeral} {j : Json} (h : n.value? = some j) :
    j.DistinctKeys := by
  rw [Numeral.value?] at h
  split_ifs at h
  · cases h
    exact nofun
  · cases h
    exact nofun
  · cases h
    exact nofun
  · obtain ⟨x, -, rfl⟩ := Option.map_eq_some_iff.1 h
    exact nofun

namespace Parser

theorem ensures_numeral (n : Numeral) :
    Ensures (match n.value? with
      | some j => pure j
      | none => failAfter 0 .numberOutOfRange) DistinctKeys := by
  split
  next j hj => exact ensures_pure (Numeral.distinctKeys_of_value? hj)
  next => exact ensures_failAfter _ _

theorem ensures_number (negative : Bool) : Ensures (number negative) DistinctKeys := by
  refine ensures_then fun whole => ensures_then fun fraction => ensures_then fun letter => ?_
  dsimp only
  split_ifs
  · exact ensures_then fun _ => ensures_then fun _ => ensures_numeral _
  · exact ensures_then fun _ => ensures_numeral _

theorem ensures_valueWith {array object : Parser Json} (ha : Ensures array DistinctKeys)
    (ho : Ensures object DistinctKeys) : Ensures (valueWith array object) DistinctKeys := by
  refine ensures_then fun token => ?_
  split
  · exact ensures_fail _
  · exact ensures_then fun _ => ensures_then fun _ => ensures_pure nofun
  · exact ensures_then fun _ => ensures_then fun _ => ensures_pure nofun
  · exact ensures_then fun _ => ensures_then fun _ => ensures_pure nofun
  · exact ensures_then fun _ => ensures_number true
  · exact ensures_then fun _ => ensures_map fun _ => nofun
  · exact ha
  · exact ho
  · split_ifs
    · exact ensures_number false
    · exact ensures_fail _

theorem ensures_value (depth : ℕ) : Ensures (Parser.value depth) DistinctKeys := by
  cases depth with
  | zero => exact ensures_valueWith (ensures_fail _) (ensures_fail _)
  | succ depth =>
    refine ensures_valueWith ?_ ?_
    · exact ensures_then fun _ => ensures_map distinctKeys_array
    · exact ensures_then fun _ => ensures_map ofEntries_distinctKeys

theorem ensures_arrayDocument :
    Ensures arrayDocument fun values => ∀ v ∈ values, v.DistinctKeys := by
  refine ensures_then fun token => ?_
  split
  · refine ensures_then fun _ => ensures_bind (ensures_items (ensures_value _)) fun values h => ?_
    exact ensures_then fun _ => ensures_pure h
  · exact ensures_then fun _ => ensures_pure (List.forall_mem_nil _)

end Parser

/-- **No key occurs twice in the objects of an array that is read.** -/
theorem distinctKeys_of_parseArray {text : String} {values : List Json} {v : Json}
    (h : parseArray text = .ok values) (hv : v ∈ values) : v.DistinctKeys := by
  rw [parseArray, Parser.read] at h
  split at h
  next values' cursor hread =>
    cases h
    exact Parser.ensures_arrayDocument _ _ _ hread v hv
  next => cases h

/-! ### Parts of records -/

section

variable {σ α : Type} {r : Record σ} {part : σ → α} {read : Json → Except Mismatch α}
  (hread : ∀ j record record', r.readEntry record (key, j) = .ok record' →
    read j = .ok (part record'))
  (hkeep : ∀ p ∈ r.parts, p.key ≠ key → ∀ j record record', p.read j record = .ok record' →
    part record' = part record)

include hkeep

theorem Record.part_of_readEntry {e : String × Json} {record record' : σ} (he : e.1 ≠ key)
    (h : r.readEntry record e = .ok record') : part record' = part record := by
  rw [readEntry] at h
  split at h
  next p hp =>
    have hpe : p.key = e.1 := by simpa using List.find?_some hp
    exact hkeep p (List.mem_of_find?_eq_some hp) (hpe ▸ he) e.2 record record' h
  next =>
    cases h
    rfl

theorem Record.part_of_notMem (hk : key ∉ entries.map Prod.fst) {record record' : σ}
    (h : entries.foldlM r.readEntry record = .ok record') : part record' = part record := by
  induction entries generalizing record with
  | nil =>
    cases h
    rfl
  | cons e entries ih =>
    rw [List.map_cons, List.mem_cons, not_or] at hk
    rw [List.foldlM_cons] at h
    obtain ⟨middle, hm, h'⟩ := bind_eq_ok_iff.1 h
    rw [ih hk.2 h', part_of_readEntry hkeep (Ne.symm hk.1) hm]

include hread

theorem Record.part_of_foldlM (hd : (entries.map Prod.fst).Nodup) {record record' : σ}
    (h : entries.foldlM r.readEntry record = .ok record')
    (hv : (key, value) ∈ entries) : read value = .ok (part record') := by
  induction entries generalizing record with
  | nil => cases hv
  | cons e entries ih =>
    rw [List.map_cons, List.nodup_cons] at hd
    rw [List.foldlM_cons] at h
    obtain ⟨middle, hm, h'⟩ := bind_eq_ok_iff.1 h
    rcases List.mem_cons.1 hv with rfl | hv
    · rw [part_of_notMem hkeep hd.1 h']
      exact hread value record middle hm
    · exact ih hd.2 h' hv

/-- **A part of a record is read from the value of its key.** -/
theorem Record.part_of_ofJson {j : Json} {record : σ} (hd : j.DistinctKeys)
    (h : r.ofJson j = .ok record) (hv : j.get? key = some value) :
    read value = .ok (part record) := by
  cases j with
  | object entries =>
    obtain ⟨record', hr, h⟩ := bind_eq_ok_iff.1 (h : r.ofEntries entries = .ok record)
    have hpart := part_of_foldlM hread hkeep (hd entries rfl) hr (mem_of_lookup hv)
    split at h
    · cases h
    · cases h
      exact hpart
  | _ => cases hv

end

end Json

/-! ### Types and references -/

open Json (readText readOptional)

/-- The type of a message is the type that the entry gives. -/
theorem MessageEntry.type_of_ofJson {entry : Json} {m : MessageEntry} {value : Json}
    (hd : entry.DistinctKeys) (h : MessageEntry.ofJson entry = .ok m)
    (hv : entry.get? "type" = some value) : readText value = .ok m.type := by
  refine Json.Record.part_of_ofJson (fun j before after hr => ?_) ?_ hd h hv
  · obtain ⟨type, ht, rfl⟩ := map_eq_ok_iff.1 hr
    exact ht
  · intro p hp hk j before after hr
    simp only [record, List.mem_cons, List.not_mem_nil, or_false] at hp
    rcases hp with rfl | rfl | rfl | rfl | rfl
    case inr.inl => exact absurd rfl hk
    all_goals
      obtain ⟨_, -, rfl⟩ := map_eq_ok_iff.1 hr
      rfl

/-- The reference of a field is the reference that the entry gives. -/
theorem FieldEntry.reference_of_ofJson {entry : Json} {e : FieldEntry} {value : Json}
    (hd : entry.DistinctKeys) (h : FieldEntry.ofJson entry = .ok e)
    (hv : entry.get? "common-ref" = some value) :
    readOptional readText value = .ok e.reference := by
  refine Json.Record.part_of_ofJson (fun j before after hr => ?_) ?_ hd h hv
  · obtain ⟨reference, hj, rfl⟩ := map_eq_ok_iff.1 hr
    exact hj
  · intro p hp hk j before after hr
    simp only [record, List.mem_cons, List.not_mem_nil, or_false] at hp
    rcases hp with rfl | rfl | rfl | rfl | rfl | rfl | rfl
    case inr.inr.inr.inl => exact absurd rfl hk
    all_goals
      obtain ⟨_, -, rfl⟩ := map_eq_ok_iff.1 hr
      rfl

end TlvSchema
