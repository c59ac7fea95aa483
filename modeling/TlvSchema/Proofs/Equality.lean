import TlvSchema.Proofs.Ownership

/-!
# Equality of values

Values are equal if they have one shape and equal parts, where floating-point numbers are equal as numbers:
one that is no number is not equal to anything, and the two zeros are equal.  So a value is equal to itself
if and only if every floating-point number in its tree is a number.  Apart from that, equality is an
equivalence, and equal values have the same types.

* `BinaryFormat.equal_iff` — equality of patterns of bits, by what they stand for
* `Value.parts_induction` — induction on the tree of a value
* `Value.equal_symm`, `Value.equal_trans`, `Value.equal_self_iff` — what equality has of an equivalence
* `Value.hasType_eq` — equal values have the same types
-/

namespace TlvSchema

/-! ### Patterns of bits -/

/-- The number is zero, of either sign. -/
def BinaryNumber.IsZero (x : BinaryNumber) : Prop := ∃ negative exponent, x = .finite negative 0 exponent

namespace BinaryFormat

variable {f : BinaryFormat} {a b c : ℕ}

theorem isNaN_iff : f.isNaN a = true ↔ f.decode a = .nan := by
  rw [isNaN, decode]
  split_ifs <;> simp_all

theorem isZero_iff_fields : f.isZero a = true ↔ f.fraction a = 0 ∧ f.storedExponent a = 0 := by
  have hpow : Nat.pow 2 (f.fractionBits + f.exponentBits) =
      Nat.pow 2 f.fractionBits * Nat.pow 2 f.exponentBits := Nat.pow_add 2 _ _
  rw [isZero, beq_iff_eq, hpow, Nat.mod_mul, fraction, storedExponent, Nat.add_eq_zero_iff,
    Nat.mul_eq_zero]
  simp

theorem isZero_iff (hf : 0 < f.exponentBits) : f.isZero a = true ↔ (f.decode a).IsZero := by
  have hlargest : 2 ^ f.exponentBits - 1 ≠ 0 := by
    have h : 2 ^ 1 ≤ 2 ^ f.exponentBits := Nat.pow_le_pow_right (by decide) hf
    omega
  rw [isZero_iff_fields, decode, BinaryNumber.IsZero]
  split_ifs with hmax hfraction hstored
  · simp [hmax, hlargest]
  · simp [hmax, hlargest]
  · simp [hstored]
  · simp [hstored]

/-- **Equality of patterns is equality of numbers.** -/
theorem equal_iff (hf : 0 < f.exponentBits) : f.equal a b = true ↔
    f.decode a ≠ .nan ∧ f.decode b ≠ .nan ∧ (a = b ∨ (f.decode a).IsZero ∧ (f.decode b).IsZero) := by
  rw [← isZero_iff hf, ← isZero_iff hf, ne_eq, ne_eq, ← isNaN_iff, ← isNaN_iff, equal]
  simp [and_assoc]

theorem equal_symm (h : f.equal a b = true) : f.equal b a = true := by
  simp only [equal, Bool.and_eq_true, Bool.or_eq_true, beq_iff_eq] at h ⊢
  obtain ⟨⟨ha, hb⟩, hab⟩ := h
  exact ⟨⟨hb, ha⟩, hab.imp Eq.symm And.symm⟩

theorem equal_trans (h : f.equal a b = true) (h' : f.equal b c = true) : f.equal a c = true := by
  simp only [equal, Bool.and_eq_true, Bool.or_eq_true, beq_iff_eq] at h h' ⊢
  obtain ⟨⟨ha, -⟩, hab⟩ := h
  obtain ⟨⟨-, hc⟩, hbc⟩ := h'
  refine ⟨⟨ha, hc⟩, ?_⟩
  rcases hab with rfl | ⟨hza, hzb⟩
  · exact hbc
  · rcases hbc with rfl | ⟨-, hzc⟩
    · exact .inr ⟨hza, hzb⟩
    · exact .inr ⟨hza, hzc⟩

end BinaryFormat

/-! ### Numbers of two widths -/

namespace Binary32

/-- What the bits stand for. -/
def number (x : Binary32) : BinaryNumber := BinaryFormat.single.decode x.bits.toNat

theorem equal_iff {a b : Binary32} : a.equal b = true ↔
    a.number ≠ .nan ∧ b.number ≠ .nan ∧ (a.bits = b.bits ∨ a.number.IsZero ∧ b.number.IsZero) := by
  rw [equal, BinaryFormat.equal_iff (by decide), ← UInt32.toNat_inj]
  rfl

end Binary32

namespace Binary64

/-- What the bits stand for. -/
def number (x : Binary64) : BinaryNumber := BinaryFormat.double.decode x.bits.toNat

theorem equal_iff {a b : Binary64} : a.equal b = true ↔
    a.number ≠ .nan ∧ b.number ≠ .nan ∧ (a.bits = b.bits ∨ a.number.IsZero ∧ b.number.IsZero) := by
  rw [equal, BinaryFormat.equal_iff (by decide), ← UInt64.toNat_inj]
  rfl

end Binary64

namespace Value

variable {u v w : Value} {us vs ws : List Value}

/-! ### Parts of values -/

/-- The value is a leaf, and no floating-point number. -/
def IsExact : Value → Prop
  | .f32 _ | .f64 _ | .array _ | .struct _ => False
  | _ => True

/-- What holds of the leaves, and of arrays and structs if it holds of their parts, holds of all values. -/
@[elab_as_elim]
theorem parts_induction {motive : Value → Prop} (leaf : ∀ v, v.IsExact → motive v)
    (f32 : ∀ x, motive (.f32 x)) (f64 : ∀ x, motive (.f64 x))
    (array : ∀ vs, (∀ v ∈ vs, motive v) → motive (.array vs))
    (struct : ∀ vs, (∀ v ∈ vs, motive v) → motive (.struct vs)) (v : Value) : motive v :=
  @Value.rec motive (fun vs => ∀ v ∈ vs, motive v)
    (fun _ => leaf _ trivial) (fun _ => leaf _ trivial) (fun _ => leaf _ trivial)
    (fun _ => leaf _ trivial) (fun _ => leaf _ trivial) (fun _ => leaf _ trivial)
    (fun _ => leaf _ trivial) (fun _ => leaf _ trivial) (fun _ => leaf _ trivial) f32 f64
    (fun _ => leaf _ trivial) array struct (List.forall_mem_nil _)
    (fun _ _ hv hvs => List.forall_mem_cons.2 ⟨hv, hvs⟩) v

/-! ### Equal shapes -/

theorem equal_iff_of_isExact (h : u.IsExact) : u.equal v = true ↔ u = v := by
  cases u <;> cases v <;> simp [equal, IsExact] at h ⊢

theorem equal_f32_iff {x : Binary32} :
    (f32 x).equal v = true ↔ ∃ y, v = .f32 y ∧ x.equal y = true := by
  cases v <;> simp [equal]

theorem equal_f64_iff {x : Binary64} :
    (f64 x).equal v = true ↔ ∃ y, v = .f64 y ∧ x.equal y = true := by
  cases v <;> simp [equal]

theorem listEqual_iff :
    listEqual us vs = true ↔ List.Forall₂ (fun u v => u.equal v = true) us vs := by
  induction us generalizing vs with
  | nil => cases vs <;> simp [listEqual]
  | cons u us ih => cases vs <;> simp [listEqual, ih]

theorem equal_array_iff : (array us).equal v = true ↔
    ∃ vs, v = .array vs ∧ List.Forall₂ (fun u v => u.equal v = true) us vs := by
  cases v <;> simp [equal, listEqual_iff]

theorem equal_struct_iff : (struct us).equal v = true ↔
    ∃ vs, v = .struct vs ∧ List.Forall₂ (fun u v => u.equal v = true) us vs := by
  cases v <;> simp [equal, listEqual_iff]

/-! ### Equality as an equivalence -/

theorem forall₂_imp {R S : Value → Value → Prop} (h : ∀ u ∈ us, ∀ v, R u v → S u v)
    (hs : List.Forall₂ R us vs) : List.Forall₂ S us vs :=
  ((List.forall₂_and_left us vs).2 ⟨h, hs⟩).imp fun _ v ⟨h, hr⟩ => h v hr

theorem forall₂_trans
    (htrans : ∀ u ∈ us, ∀ v w, u.equal v = true → v.equal w = true → u.equal w = true)
    (h : List.Forall₂ (fun u v => u.equal v = true) us vs)
    (h' : List.Forall₂ (fun u v => u.equal v = true) vs ws) :
    List.Forall₂ (fun u v => u.equal v = true) us ws := by
  induction h generalizing ws with
  | nil => exact h'
  | cons huv _ ih =>
    obtain ⟨hu, hus⟩ := List.forall_mem_cons.1 htrans
    cases h' with
    | cons hvw hvs => exact .cons (hu _ _ huv hvw) (ih hus hvs)

/-- **Equality is symmetric.** -/
theorem equal_symm (h : u.equal v = true) : v.equal u = true := by
  induction u using parts_induction generalizing v with
  | leaf u hu =>
    obtain rfl := (equal_iff_of_isExact hu).1 h
    exact h
  | f32 x =>
    obtain ⟨y, rfl, hxy⟩ := equal_f32_iff.1 h
    exact equal_f32_iff.2 ⟨x, rfl, BinaryFormat.equal_symm hxy⟩
  | f64 x =>
    obtain ⟨y, rfl, hxy⟩ := equal_f64_iff.1 h
    exact equal_f64_iff.2 ⟨x, rfl, BinaryFormat.equal_symm hxy⟩
  | array us ih =>
    obtain ⟨vs, rfl, hs⟩ := equal_array_iff.1 h
    exact equal_array_iff.2 ⟨us, rfl, (forall₂_imp (fun u hu v => ih u hu) hs).flip⟩
  | struct us ih =>
    obtain ⟨vs, rfl, hs⟩ := equal_struct_iff.1 h
    exact equal_struct_iff.2 ⟨us, rfl, (forall₂_imp (fun u hu v => ih u hu) hs).flip⟩

/-- **Equality is transitive.** -/
theorem equal_trans (h : u.equal v = true) (h' : v.equal w = true) : u.equal w = true := by
  induction u using parts_induction generalizing v w with
  | leaf u hu =>
    obtain rfl := (equal_iff_of_isExact hu).1 h
    exact h'
  | f32 x =>
    obtain ⟨y, rfl, hxy⟩ := equal_f32_iff.1 h
    obtain ⟨z, rfl, hyz⟩ := equal_f32_iff.1 h'
    exact equal_f32_iff.2 ⟨z, rfl, BinaryFormat.equal_trans hxy hyz⟩
  | f64 x =>
    obtain ⟨y, rfl, hxy⟩ := equal_f64_iff.1 h
    obtain ⟨z, rfl, hyz⟩ := equal_f64_iff.1 h'
    exact equal_f64_iff.2 ⟨z, rfl, BinaryFormat.equal_trans hxy hyz⟩
  | array us ih =>
    obtain ⟨vs, rfl, hs⟩ := equal_array_iff.1 h
    obtain ⟨ws, rfl, hs'⟩ := equal_array_iff.1 h'
    exact equal_array_iff.2 ⟨ws, rfl, forall₂_trans (fun u hu v w => ih u hu) hs hs'⟩
  | struct us ih =>
    obtain ⟨vs, rfl, hs⟩ := equal_struct_iff.1 h
    obtain ⟨ws, rfl, hs'⟩ := equal_struct_iff.1 h'
    exact equal_struct_iff.2 ⟨ws, rfl, forall₂_trans (fun u hu v w => ih u hu) hs hs'⟩

/-! ### Values that are not equal to themselves -/

/-- The value is a floating-point number that is no number. -/
def IsNaN : Value → Prop
  | .f32 x => x.number = .nan
  | .f64 x => x.number = .nan
  | _ => False

/-- Every floating-point number in the tree of the value is a number. -/
def NaNFree (v : Value) : Prop := ∀ w, Within w v → ¬ w.IsNaN

theorem nanFree_of_isExact (h : v.IsExact) : v.NaNFree := by
  intro w hw
  cases hw with
  | self =>
    intro hn
    cases v <;> first | exact h | exact hn
  | element => exact h.elim
  | member => exact h.elim

theorem nanFree_f32_iff {x : Binary32} : (f32 x).NaNFree ↔ x.number ≠ .nan := by
  constructor
  · intro h
    exact h _ (.self _)
  · intro h w hw
    cases hw
    exact h

theorem nanFree_f64_iff {x : Binary64} : (f64 x).NaNFree ↔ x.number ≠ .nan := by
  constructor
  · intro h
    exact h _ (.self _)
  · intro h w hw
    cases hw
    exact h

theorem nanFree_array_iff : (array vs).NaNFree ↔ ∀ v ∈ vs, v.NaNFree := by
  constructor
  · intro h v hv w hw
    exact h w (.element hv hw)
  · intro h w hw
    cases hw with
    | self => exact id
    | element hv hw => exact h _ hv w hw

theorem nanFree_struct_iff : (struct vs).NaNFree ↔ ∀ v ∈ vs, v.NaNFree := by
  constructor
  · intro h v hv w hw
    exact h w (.member hv hw)
  · intro h w hw
    cases hw with
    | self => exact id
    | member hv hw => exact h _ hv w hw

/-- **A value is equal to itself if and only if every floating-point number in it is a number.** -/
theorem equal_self_iff : v.equal v = true ↔ v.NaNFree := by
  induction v using parts_induction with
  | leaf v hv => exact iff_of_true ((equal_iff_of_isExact hv).2 rfl) (nanFree_of_isExact hv)
  | f32 x => simp [equal_f32_iff, nanFree_f32_iff, Binary32.equal_iff]
  | f64 x => simp [equal_f64_iff, nanFree_f64_iff, Binary64.equal_iff]
  | array vs ih =>
    simp only [equal_array_iff, array.injEq, exists_eq_left', List.forall₂_same, nanFree_array_iff]
    exact forall₂_congr ih
  | struct vs ih =>
    simp only [equal_struct_iff, struct.injEq, exists_eq_left', List.forall₂_same, nanFree_struct_iff]
    exact forall₂_congr ih

/-! ### Types of equal values -/

theorem allHaveType_congr {type : FieldType}
    (h : List.Forall₂ (fun u v => u.hasType type = v.hasType type) us vs) :
    allHaveType us type = allHaveType vs type := by
  induction h with
  | nil => rfl
  | cons huv _ ih => rw [allHaveType, allHaveType, huv, ih]

theorem haveTypes_congr {members : List (String × FieldType)}
    (h : List.Forall₂ (fun u v => ∀ type, u.hasType type = v.hasType type) us vs) :
    haveTypes us members = haveTypes vs members := by
  induction h generalizing members with
  | nil => rfl
  | cons huv _ ih =>
    cases members with
    | nil => rfl
    | cons m members => rw [haveTypes, haveTypes, huv, ih]

/-- **Equal values have the same types.** -/
theorem hasType_eq (h : u.equal v = true) (type : FieldType) : u.hasType type = v.hasType type := by
  induction u using parts_induction generalizing v type with
  | leaf u hu => rw [(equal_iff_of_isExact hu).1 h]
  | f32 x =>
    obtain ⟨y, rfl, -⟩ := equal_f32_iff.1 h
    cases type with
    | scalar kind => cases kind <;> rfl
    | _ => rfl
  | f64 x =>
    obtain ⟨y, rfl, -⟩ := equal_f64_iff.1 h
    cases type with
    | scalar kind => cases kind <;> rfl
    | _ => rfl
  | array us ih =>
    obtain ⟨vs, rfl, hs⟩ := equal_array_iff.1 h
    cases type with
    | array type => exact allHaveType_congr (forall₂_imp (fun u hu v huv => ih u hu huv type) hs)
    | _ => rfl
  | struct us ih =>
    obtain ⟨vs, rfl, hs⟩ := equal_struct_iff.1 h
    cases type with
    | struct members => exact haveTypes_congr (forall₂_imp (fun u hu v huv => ih u hu huv) hs)
    | _ => rfl

end Value

end TlvSchema
