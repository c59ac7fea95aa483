import TlvSchema.Proofs.Equality
import TlvSchema.Proofs.Sharing

/-!
# Equal values in containers

What is asked of a value before it is put into a slot is its type, and equal values have the same types.  So
one of them can stand for the other in a write and in a list of values that are decoded: they are taken
alike, and refused for the same reason.  What is read after a write is what was written, bit for bit, but it
is equal to it only if there is no NaN in it.

* `refusalOf` — why something was not done
* `Model.refusalOf_placeAll`, `Container.refusalOf_set`, `Container.refusalOf_decode` — what is refused
* `Store.answer_set_eq`, `Store.answer_decode_eq` — equal values are answered alike
* `Store.get_of_set` — what has been written is read
* `Store.equality_of_values` — equality, and what it says of containers
-/

namespace TlvSchema

/-! ### Refusals -/

/-- Why something was not done, if it was not. -/
def refusalOf {α : Type} : Except UsageError α → Option UsageError
  | .ok _ => none
  | .error e => some e

namespace Model

variable {m : Model} {u v : Value} {name : String} {ps qs : List (String × Value)}

/-- Several values are refused for the first one that does not fit. -/
theorem refusalOf_placeAll (slots : List (Option Value)) (ps : List (String × Value)) :
    refusalOf (m.placeAll slots ps) = ps.findSome? m.misfit? := by
  induction ps generalizing slots with
  | nil => rfl
  | cons p ps ih =>
    rw [placeAll_cons, place_eq, List.findSome?_cons]
    cases m.misfit? p with
    | none => exact ih _
    | some e => rfl

theorem misfit?_eq_of_equal (h : u.equal v = true) : m.misfit? (name, u) = m.misfit? (name, v) := by
  simp only [misfit?, Value.hasType_eq h]

theorem findSome?_misfit?_eq (h : List.Forall₂ (fun p q => p.1 = q.1 ∧ p.2.equal q.2 = true) ps qs) :
    ps.findSome? m.misfit? = qs.findSome? m.misfit? := by
  induction h with
  | nil => rfl
  | @cons p q ps qs hpq _ ih =>
    obtain ⟨name, u⟩ := p
    obtain ⟨name', v⟩ := q
    obtain ⟨rfl, huv⟩ := hpq
    rw [List.findSome?_cons, List.findSome?_cons, misfit?_eq_of_equal huv, ih]

end Model

namespace Container

variable {c : Container} {m : Model} {u v : Value} {name : String} {ps : List (String × Value)}

theorem refusalOf_set : refusalOf (c.set name v) = (c.model.misfit? (name, v)).or
    (if c.count = 1 then none else some (.shared c.model.fullName c.count)) := by
  cases hp : c.model.misfit? (name, v) with
  | some e =>
    have hset : c.set name v = .error e := set_of_misfit hp
    rw [hset]
    rfl
  | none =>
    by_cases hc : c.count = 1
    · have hset : c.set name v = .ok _ := set_of_fits hp hc
      rw [hset, if_pos hc]
      rfl
    · have hset : c.set name v = .error _ := set_of_shared hp hc
      rw [hset, if_neg hc]
      rfl

theorem refusalOf_decode : refusalOf (decode m ps) =
    (refusalOf (m.checkDirection .output)).or (ps.findSome? m.misfit?) := by
  rw [← Model.refusalOf_placeAll m.emptySlots ps, decode]
  cases m.checkDirection .output with
  | error e => rfl
  | ok _ =>
    cases m.placeAll m.emptySlots ps <;> simp [bind, Except.bind, pure, Except.pure, refusalOf]

end Container

namespace Store

variable {s : Store} {handle field : String} {u v : Value} {m : Model} {ps qs : List (String × Value)}

/-! ### Equal values in a store -/

theorem answer_set : (s.step (.set handle field v)).value.1 = s.read handle fun c =>
    match refusalOf (c.set field v) with
    | none => .done
    | some e => .refused e := by
  rw [read]
  cases ht : s.target? handle with
  | none => rw [step_set_of_noHandle ht]
  | some t =>
    obtain ⟨n, c⟩ := t
    cases hset : c.set field v with
    | ok c' =>
      rw [step_set_of_ok ht hset]
      simp only [hset, refusalOf]
    | error e =>
      rw [step_set_of_error ht hset]
      simp only [hset, refusalOf]

theorem answer_decode : (s.step (.decode handle m ps)).value.1 =
    match refusalOf (Container.decode m ps) with
    | none => .count 1
    | some e => .refused e := by
  rw [step]
  cases hd : Container.decode m ps with
  | error e => rfl
  | ok c => exact congrArg Answer.count (Container.count_of_decode hd)

/-- A write of an equal value is answered alike. -/
theorem answer_set_eq (h : u.equal v = true) :
    (s.step (.set handle field u)).value.1 = (s.step (.set handle field v)).value.1 := by
  simp only [answer_set, Container.refusalOf_set, Model.misfit?_eq_of_equal h]

/-- Decoding equal values is answered alike. -/
theorem answer_decode_eq (h : List.Forall₂ (fun p q => p.1 = q.1 ∧ p.2.equal q.2 = true) ps qs) :
    (s.step (.decode handle m ps)).value.1 = (s.step (.decode handle m qs)).value.1 := by
  simp only [answer_decode, Container.refusalOf_decode, Model.findSome?_misfit?_eq h]

/-- What has been written is read. -/
theorem get_of_set {steps : List Step} (h : ((after steps).step (.set handle field v)).value.1 = .done) :
    (((after steps).step (.set handle field v)).value.2.step (.get handle field)).value.1 =
      .value (some v) := by
  have hb := balanced_after steps
  cases ht : (after steps).target? handle with
  | none =>
    rw [step_set_of_noHandle ht] at h
    cases h
  | some t =>
    obtain ⟨n, c⟩ := t
    have hfits : c.Fits := fits_after steps n c (target?_eq_some_iff.1 ht).2
    obtain ⟨hp, honly⟩ := (hb.step_set_done_iff hfits ht).1 h
    obtain ⟨s', hstep, hwrite⟩ :=
      step_set_of_fits ht hfits hp ((hb.count_eq_one_iff ht).2 honly) honly
    rw [hstep]
    exact hwrite.get

/-- **Equality of values.**  Equality is symmetric and transitive, a value is equal to itself if and only if
every floating-point number in its tree is a number, and equal values have the same types.  Two
floating-point numbers of one width are equal if and only if both are numbers and they have the same bits or
are zeros.  So what is read after a write is equal to what was written if and only if all in it are numbers,
and equal values are taken alike, and refused for the same reason, by writes and when they are decoded. -/
theorem equality_of_values :
    (∀ u v : Value, u.equal v = true → v.equal u = true) ∧
    (∀ u v w : Value, u.equal v = true → v.equal w = true → u.equal w = true) ∧
    (∀ v : Value, v.equal v = true ↔ v.NaNFree) ∧
    (∀ u v : Value, u.equal v = true → ∀ type, u.hasType type = v.hasType type) ∧
    (∀ x y : Binary32, (Value.f32 x).equal (.f32 y) = true ↔ x.number ≠ .nan ∧ y.number ≠ .nan ∧
      (x.bits = y.bits ∨ x.number.IsZero ∧ y.number.IsZero)) ∧
    (∀ x y : Binary64, (Value.f64 x).equal (.f64 y) = true ↔ x.number ≠ .nan ∧ y.number ≠ .nan ∧
      (x.bits = y.bits ∨ x.number.IsZero ∧ y.number.IsZero)) ∧
    (∀ (steps : List Step) (handle field : String) (v : Value),
      ((after steps).step (.set handle field v)).value.1 = .done →
      ∃ w, (((after steps).step (.set handle field v)).value.2.step (.get handle field)).value.1 =
          .value (some w) ∧ (w.equal v = true ↔ v.NaNFree)) ∧
    (∀ (s : Store) (handle field : String) (u v : Value), u.equal v = true →
      (s.step (.set handle field u)).value.1 = (s.step (.set handle field v)).value.1) ∧
    ∀ (s : Store) (handle : String) (m : Model) (ps qs : List (String × Value)),
      List.Forall₂ (fun p q => p.1 = q.1 ∧ p.2.equal q.2 = true) ps qs →
      (s.step (.decode handle m ps)).value.1 = (s.step (.decode handle m qs)).value.1 := by
  refine ⟨fun u v => Value.equal_symm, fun u v w => Value.equal_trans, fun v => Value.equal_self_iff,
    fun u v => Value.hasType_eq, fun x y => Binary32.equal_iff, fun x y => Binary64.equal_iff, ?_, ?_, ?_⟩
  · intro steps handle field v h
    exact ⟨v, get_of_set h, Value.equal_self_iff⟩
  · intro s handle field u v h
    exact answer_set_eq h
  · intro s handle m ps qs h
    exact answer_decode_eq h

/-- A struct with a number and a list of numbers. -/
def numbersType : FieldType := .struct [("A", .scalar .f32), ("B", .array (.scalar .f64))]

/-- A value of that type, with a zero and a negative zero. -/
def someZeros : Value := .struct [.f32 ⟨0⟩, .array [.f64 ⟨0x8000000000000000⟩]]

/-- The same with the signs the other way round. -/
def otherZeros : Value := .struct [.f32 ⟨0x80000000⟩, .array [.f64 ⟨0⟩]]

/-- The same with a NaN. -/
def noNumbers : Value := .struct [.f32 ⟨0⟩, .array [.f64 ⟨0x7ff8000000000001⟩]]

/-- A field of that type. -/
def numbersFields : List Field :=
  [⟨"Foo", ⟨1⟩, "struct", none, [⟨"A", "gfloat", [], none⟩,
    ⟨"B", "array", [], some ⟨"", "gdouble", [], none⟩⟩], none⟩]

/-- The models of this field. -/
def numbersModel (direction : Direction) : Model where
  fullName := "Msg A"
  direction := direction
  declared := some
    [⟨"Foo", ⟨1⟩, "MSG_A_TLV_FOO", "struct", numbersType, none, "msg_a_get_foo",
      if direction = .input then some "msg_a_set_foo" else none⟩]

theorem build_numbersFields (direction : Direction) :
    Model.build "Msg A" direction (some numbersFields) = .ok (numbersModel direction) := by
  cases direction <;> rfl

theorem equality_of_values_zeros :
    (∀ direction, Model.build "Msg A" direction (some numbersFields) = .ok (numbersModel direction)) ∧
      someZeros.equal otherZeros = true ∧ otherZeros.equal someZeros = true ∧
      someZeros.equal someZeros = true ∧ otherZeros.hasType numbersType = true ∧ ¬ noNumbers.NaNFree ∧
      (∃ w, (((after [.create "a" (numbersModel .input)]).step
          (.set "a" "Foo" noNumbers)).value.2.step (.get "a" "Foo")).value.1 = .value (some w) ∧
        w.equal noNumbers = false) ∧
      ((after [.create "a" (numbersModel .input)]).step (.set "a" "Foo" otherZeros)).value.1 = .done ∧
      (empty.step (.decode "a" (numbersModel .output) [("Foo", otherZeros)])).value.1 = .count 1 := by
  obtain ⟨hsymm, htrans, hself, htype, -, -, hget, hset, hdecode⟩ := equality_of_values
  have heq : someZeros.equal otherZeros = true := by decide
  have hsame : someZeros.equal someZeros = true := htrans _ _ _ heq (hsymm _ _ heq)
  have hnan : ¬ noNumbers.NaNFree := fun h => absurd ((hself _).2 h) (by decide)
  refine ⟨build_numbersFields, heq, hsymm _ _ heq, hsame,
    (htype _ _ heq numbersType).symm.trans (by decide), hnan, ?_, ?_, ?_⟩
  · obtain ⟨w, hw, hiff⟩ := hget [.create "a" (numbersModel .input)] "a" "Foo" noNumbers rfl
    exact ⟨w, hw, Bool.eq_false_iff.2 fun h => hnan (hiff.1 h)⟩
  · exact (hset _ "a" "Foo" someZeros otherZeros heq).symm.trans rfl
  · have hanswer := hdecode empty "a" (numbersModel .output) [("Foo", someZeros)]
      [("Foo", otherZeros)] (.cons ⟨rfl, heq⟩ .nil)
    exact hanswer.symm.trans rfl

end Store

end TlvSchema
