import Mathlib
import TlvSchema.Emission

/-!
# Calls of an emitter

Which calls an emitter gets for a model does not depend on the emitter.  They are a list that can be
written down from the model (`Model.calls`), and emitting the model is making these calls one after the
other, in any monad (`Model.emit_eq_forM`).
-/

namespace TlvSchema.Model

variable {φ : Type} {m : Type → Type} [Monad m] [LawfulMonad m] {model : Model}
  {emitter : Call φ → m Unit}

/-! ### Sequences of calls -/

theorem forM_flatMap {α β : Type} (l : List α) (f : α → List β) (g : β → m Unit) :
    (l.flatMap f).forM g = l.forM fun a => (f a).forM g := by
  induction l with
  | nil => rfl
  | cons a l ih =>
    simp only [List.forM_eq_forM] at ih ⊢
    rw [List.flatMap_cons, List.forM_append, List.forM_cons, ih]

omit [LawfulMonad m] in
theorem forM_congr {α : Type} {l : List α} {f g : α → m Unit} (h : ∀ a ∈ l, f a = g a) :
    l.forM f = l.forM g := by
  induction l with
  | nil => rfl
  | cons a l ih =>
    simp only [List.forM_eq_forM] at ih ⊢
    rw [List.forM_cons, List.forM_cons, h a List.mem_cons_self,
      ih fun b hb => h b (List.mem_cons_of_mem a hb)]

/-- Going through the indices of a list is going through the list. -/
theorem forM_range_getElem? {α : Type} (l : List α) (f : α → m Unit) :
    ((List.range l.length).forM fun i => l[i]?.forM f) = l.forM f := by
  induction l using List.reverseRecOn with
  | nil => rfl
  | append_singleton l a ih =>
    -- the indices but the last one lead to the same elements as before
    have hinit : ((List.range l.length).forM fun i => (l ++ [a])[i]?.forM f) =
        (List.range l.length).forM fun i => l[i]?.forM f :=
      forM_congr fun i hi => by rw [List.getElem?_append_left (List.mem_range.1 hi)]
    simp only [List.forM_eq_forM] at hinit ih ⊢
    rw [List.length_append, List.length_singleton, List.range_succ, List.forM_append,
      List.forM_append, hinit, ih]
    simp [Option.forM]

/-! ### The calls for a model -/

/-- The calls for the functions of a field. -/
def accessorCalls (model : Model) (field : FieldModel) : List (Call φ) :=
  .getter model field :: if model.direction = .input then [.setter model field] else []

/-- The calls for a model. -/
def calls (code : FieldCode φ) (model : Model) : List (Call φ) :=
  if model.hasFields then
    Call.beginContainer model ::
      (model.fields.map fun f => Call.declareField f (code.declare f)) ++
      model.wireTags.map (fun entry => Call.wireTag entry.1 entry.2) ++
      model.fields.flatMap model.accessorCalls ++
      [Call.lifecycle model model.lifecycle (model.ownedFields.map code.release),
        Call.endContainer model]
  else [Call.emptyContainer model]

/-- The functions of a field are emitted by its calls. -/
theorem forM_fieldOperations (index : ℕ) :
    (model.fieldOperations index).forM (emitAccessor emitter model) =
      model.fields[index]?.forM fun f => (model.accessorCalls f).forM emitter := by
  rw [fieldOperations]
  cases hf : model.fields[index]? with
  | none => by_cases hd : model.direction = .input <;> simp [hd, emitAccessor, hf, Option.forM]
  | some f =>
    by_cases hd : model.direction = .input <;>
      simp [hd, emitAccessor, hf, Option.forM, accessorCalls]

theorem forM_operations :
    model.operations.forM (emitAccessor emitter model) =
      (model.fields.flatMap model.accessorCalls).forM emitter := by
  have hlifecycle : model.lifecycle.forM (emitAccessor emitter model) = pure () := by
    rw [lifecycle]
    by_cases hd : model.direction = .input <;> simp [hd, emitAccessor]
  simp only [List.forM_eq_forM] at hlifecycle
  rw [operations, List.forM_eq_forM, List.forM_append, hlifecycle, pure_bind, ← List.forM_eq_forM,
    forM_flatMap, forM_flatMap, ← forM_range_getElem? model.fields]
  exact forM_congr fun i _ => forM_fieldOperations i

/-- The operations on the container as a whole are those that come before the operations on fields. -/
theorem filter_isLifecycle_operations :
    model.operations.filter (·.isLifecycle) = model.lifecycle := by
  have hfield : ∀ index, (model.fieldOperations index).filter (·.isLifecycle) = [] := by
    intro index
    by_cases hd : model.direction = .input <;> simp [fieldOperations, hd, Operation.isLifecycle]
  have hfields : ((List.range model.fields.length).flatMap model.fieldOperations).filter
      (·.isLifecycle) = [] := by
    rw [List.filter_flatMap, List.flatMap_eq_nil_iff]
    exact fun index _ => hfield index
  have hwhole : model.lifecycle.filter (·.isLifecycle) = model.lifecycle := by
    by_cases hd : model.direction = .input <;> simp [lifecycle, hd, Operation.isLifecycle]
  rw [operations, List.filter_append, hfields, hwhole, List.append_nil]

/-- **A model is emitted by its calls.** -/
theorem emit_eq_forM (code : FieldCode φ) :
    model.emit code emitter = (model.calls code).forM emitter := by
  rw [emit, calls]
  by_cases hf : model.hasFields = true
  · rw [if_pos hf, if_pos hf, forM_operations, filter_isLifecycle_operations]
    simp
  · rw [if_neg hf, if_neg hf]
    simp

end TlvSchema.Model
