import TlvSchema.Proofs.Accessors
import TlvSchema.Proofs.Emission

/-!
# Emitters that fail

An emitter may fail at a call, and then the emission ends.  Until then the calls are the same as if
nothing had failed, and after the failure there are none: an emission is cut off at the place of the
failure, be that between two parts of a container or in the middle of one.

* `noting`, `failingAt` — emitters that note their calls, the second one up to a call at which it fails
* `run_emit_of_accepted`, `run_emit_of_failure` — what becomes of an emission, whatever the emitter
* `emit_failingAt` — the calls for a model, and those that are made before a failure
-/

namespace TlvSchema.Model

variable {φ ε σ : Type} {model : Model} {code : FieldCode φ} {failure : Call φ → ε} {n : ℕ}

/-! ### Emitters that note their calls -/

/-- The emitter notes its calls. -/
def noting (call : Call φ) : StateM (List (Call φ)) Unit := modify (· ++ [call])

/-- The emitter notes its calls and fails at the call with a number; the first call is number 0. -/
def failingAt (failure : Call φ → ε) (n : ℕ) (call : Call φ) :
    ExceptT ε (StateM (List (Call φ))) Unit := do
  let noted ← get
  if noted.length = n then throw (failure call) else set (noted ++ [call])

theorem run_forM_noting (calls noted : List (Call φ)) :
    (calls.forM noting).run noted = ((), noted ++ calls) := by
  induction calls generalizing noted with
  | nil => exact congrArg (Prod.mk ()) (List.append_nil noted).symm
  | cons call calls ih =>
    refine (ih (noted ++ [call])).trans ?_
    rw [List.append_assoc, List.singleton_append]

theorem run_failingAt (call : Call φ) (noted : List (Call φ)) :
    (failingAt failure n call).run.run noted =
      if noted.length = n then (.error (failure call), noted) else (.ok (), noted ++ [call]) := by
  change (if noted.length = n then throw (failure call) else set (noted ++ [call]) :
    ExceptT ε (StateM (List (Call φ))) Unit).run.run noted = _
  split <;> rfl

/-! ### Sequences of calls -/

variable {emitter : Call φ → ExceptT ε (StateM σ) Unit} {s s' s'' : σ} {call : Call φ}

theorem run_forM_cons (h : (emitter call).run.run s = (.ok (), s')) (calls : List (Call φ)) :
    ((call :: calls).forM emitter).run.run s = (calls.forM emitter).run.run s' := by
  rw [List.forM_eq_forM, List.forM_cons, ExceptT.run_bind, StateT.run_bind, h]
  rfl

/-- A failure ends a sequence of calls. -/
theorem run_forM_of_failure {before : List (Call φ)} {e : ε}
    (h : (before.forM emitter).run.run s = (.ok (), s'))
    (he : (emitter call).run.run s' = (.error e, s'')) (after : List (Call φ)) :
    ((before ++ call :: after).forM emitter).run.run s = (.error e, s'') := by
  rw [List.forM_eq_forM] at h ⊢
  rw [List.forM_append, ExceptT.run_bind, StateT.run_bind, h]
  change ((call :: after).forM emitter).run.run s' = _
  rw [List.forM_eq_forM, List.forM_cons, ExceptT.run_bind, StateT.run_bind, he]
  rfl

/-- Before the call at which it fails, the emitter only notes its calls. -/
theorem run_forM_failingAt (calls noted : List (Call φ)) (h : noted.length + calls.length ≤ n) :
    (calls.forM (failingAt failure n)).run.run noted = (.ok (), noted ++ calls) := by
  induction calls generalizing noted with
  | nil => exact congrArg (Prod.mk _) (List.append_nil noted).symm
  | cons call calls ih =>
    rw [List.length_cons] at h
    have hcall : (failingAt failure n call).run.run noted = (.ok (), noted ++ [call]) := by
      rw [run_failingAt, if_neg (by omega)]
    rw [run_forM_cons hcall, ih, List.append_assoc, List.singleton_append]
    rw [List.length_append, List.length_singleton]
    omega

/-! ### Emissions -/

/-- An emission succeeds if the emitter accepts all calls. -/
theorem run_emit_of_accepted (h : ((model.calls code).forM emitter).run.run s = (.ok (), s')) :
    (model.emit code emitter).run.run s = (.ok (), s') := by
  rw [emit_eq_forM, h]

/-- **A failure ends the emission**: the emitter gets no call after the one at which it fails. -/
theorem run_emit_of_failure {e : ε} (hcall : (model.calls code)[n]? = some call)
    (h : (((model.calls code).take n).forM emitter).run.run s = (.ok (), s'))
    (he : (emitter call).run.run s' = (.error e, s'')) :
    (model.emit code emitter).run.run s = (.error e, s'') := by
  obtain ⟨hn, hget⟩ := List.getElem?_eq_some_iff.1 hcall
  have hsplit : (model.calls code).take n ++ call :: (model.calls code).drop (n + 1) =
      model.calls code := by
    rw [← hget, ← List.drop_eq_getElem_cons hn, List.take_append_drop]
  rw [emit_eq_forM, ← hsplit]
  exact run_forM_of_failure h he _

theorem run_emit_noting : (model.emit code noting).run [] = ((), model.calls code) := by
  rw [emit_eq_forM]
  exact run_forM_noting _ []

/-- **Emission up to a failure.**  A container without a list of fields makes one call.  Any other one
makes a call for its start, for the declaration of each field, for the tag of each field, for the getter
of each field and right after it, in an input container, for its setter, for the lifecycle with a release
of each field that owns storage, and for its end.  An emitter that fails at the call number `n` gets the
first `n` of these calls and its failure is the result; if there are no more than `n` calls, it gets all
of them.  The same is true of any other emitter: it gets the calls up to the first one that fails. -/
theorem emit_failingAt (code : FieldCode φ) (failure : Call φ → ε) (model : Model) (n : ℕ) :
    let made := ((model.emit code noting).run []).2
    let cutOff := (model.emit code (failingAt failure n)).run.run []
    made = (if model.hasFields then
        Call.beginContainer model ::
          (model.fields.map fun f => Call.declareField f (code.declare f)) ++
          (model.fields.map fun f => Call.wireTag f.symbol f.tag) ++
          (model.fields.flatMap fun f => Call.getter model f ::
            if model.direction = .input then [Call.setter model f] else []) ++
          [Call.lifecycle model
              ((if model.direction = .input then [.create] else []) ++ [.retain, .release])
              ((model.fields.filter fun f => f.type.storage = .owned).map code.release),
            Call.endContainer model]
      else [Call.emptyContainer model]) ∧
    (∀ op ∈ model.operations, ∀ i, op = .get i ∨ op = .set i → i < model.fields.length) ∧
    (∀ call, made[n]? = some call → cutOff = (.error (failure call), made.take n)) ∧
    (made.length ≤ n → cutOff = (.ok (), made)) ∧
    ∀ (σ : Type) (emitter : Call φ → ExceptT ε (StateM σ) Unit) (s s' s'' : σ),
      ((made.forM emitter).run.run s = (.ok (), s') →
        (model.emit code emitter).run.run s = (.ok (), s')) ∧
      ∀ call e, made[n]? = some call → ((made.take n).forM emitter).run.run s = (.ok (), s') →
        (emitter call).run.run s' = (.error e, s'') →
          (model.emit code emitter).run.run s = (.error e, s'') := by
  intro made cutOff
  have hmade : made = model.calls code := congrArg Prod.snd run_emit_noting
  rw [hmade]
  refine ⟨?_, ?_, fun call hcall => ?_, fun hn => ?_, fun σ emitter s s' s'' => ⟨?_, ?_⟩⟩
  · rw [calls, wireTags, List.map_map]
    rfl
  · rintro op hop i (rfl | rfl)
    · exact mem_operations_iff.1 hop
    · exact (mem_operations_iff.1 hop).1
  · obtain ⟨hlt, -⟩ := List.getElem?_eq_some_iff.1 hcall
    have hlen : ((model.calls code).take n).length = n := List.length_take_of_le hlt.le
    have hbefore : (((model.calls code).take n).forM (failingAt failure n)).run.run [] =
        (.ok (), (model.calls code).take n) := by
      refine run_forM_failingAt _ [] ?_
      rw [hlen, List.length_nil, Nat.zero_add]
    refine run_emit_of_failure hcall hbefore ?_
    rw [run_failingAt, if_pos hlen]
  · refine run_emit_of_accepted (run_forM_failingAt _ [] ?_)
    rwa [List.length_nil, Nat.zero_add]
  · exact run_emit_of_accepted
  · intro call e hcall h he
    exact run_emit_of_failure hcall h he

end TlvSchema.Model
