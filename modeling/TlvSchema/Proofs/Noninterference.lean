import TlvSchema.Proofs.Writers

/-!
# Settings that do not interfere

Two runs are compared that do the same but for some settings.  The sessions agree before each step in
all that the other settings and the errors so far say, so whatever depends on that only is the same in
both runs.  In particular it does not matter for the runs whether diagnostics or output can be written:
a diagnostic counts as an error in any case, and output that is refused never does.

* `Setting`, `Step.setting?` — the settings, and the one that a step is about
* `without` — the steps that are about no setting of a list
* `Agree` — sessions that differ only in some settings
* `trace` — the steps of a run with the sessions in which they are done (`map_recordOf_trace`)
* `matching_agree` — runs that differ only in some settings stay in agreement
* `noninterference` — which settings matter for what
-/

namespace TlvSchema

namespace Session

variable {s s' s'' : Session} {step : Step} {steps steps' : List Step} {free : List Setting}

/-! ### Settings -/

/-- What can be set in a session. -/
inductive Setting where
  /-- Whether errors are allowed. -/
  | allowErrors
  /-- The width of the output. -/
  | width
  /-- How much output is taken, and whether it is passed on. -/
  | outputLimit
  /-- How much of the diagnostics is taken, and whether it is passed on. -/
  | diagnosticsLimit
deriving DecidableEq

/-- The setting that a step is about. -/
def Step.setting? : Step → Option Setting
  | .allowErrors _ => some .allowErrors
  | .width _ => some .width
  | .limitOutput _ | .blockOutput _ => some .outputLimit
  | .limitDiagnostics _ | .blockDiagnostics _ => some .diagnosticsLimit
  | _ => none

/-- The step is about none of the settings. -/
def Step.isKept (free : List Setting) (step : Step) : Bool := step.setting?.all (· ∉ free)

/-- The steps that are about none of the settings. -/
def without (free : List Setting) (steps : List Step) : List Step := steps.filter (·.isKept free)

theorem isKept_eq_false_iff :
    step.isKept free = false ↔ ∃ setting, step.setting? = some setting ∧ setting ∈ free := by
  rw [Step.isKept]
  cases step.setting? <;> simp

/-- A step about a setting writes nothing. -/
theorem handed_of_setting (s : Session) (h : step.setting?.isSome) :
    s.handedOutput step = "" ∧ s.handedDiagnostics step = "" := by
  cases step with
  | allowErrors | width | limitOutput | limitDiagnostics | blockOutput | blockDiagnostics =>
    exact ⟨rfl, rfl⟩
  | _ => cases h

/-! ### Agreement -/

/-- The sessions have the same sources and errors, and differ only in some settings. -/
structure Agree (free : List Setting) (s s' : Session) : Prop where
  /-- The same sources have been loaded. -/
  sources : s.sources = s'.sources
  /-- There have been errors in both sessions, or in none. -/
  seenErrors : s.seenErrors = s'.seenErrors
  /-- Errors are allowed in both sessions, or in none. -/
  allowErrors : .allowErrors ∉ free → s.allowErrors = s'.allowErrors
  /-- The widths are the same. -/
  width : .width ∉ free → s.width = s'.width
  /-- Output is taken and passed on in the same way. -/
  outputLimit : .outputLimit ∉ free → s.output.restart = s'.output.restart
  /-- Diagnostics are taken and passed on in the same way. -/
  diagnosticsLimit : .diagnosticsLimit ∉ free → s.diagnostics.restart = s'.diagnostics.restart

namespace Agree

theorem refl (free : List Setting) (s : Session) : Agree free s s :=
  ⟨rfl, rfl, fun _ => rfl, fun _ => rfl, fun _ => rfl, fun _ => rfl⟩

theorem symm (h : Agree free s s') : Agree free s' s :=
  ⟨h.sources.symm, h.seenErrors.symm, fun hf => (h.allowErrors hf).symm,
    fun hf => (h.width hf).symm, fun hf => (h.outputLimit hf).symm,
    fun hf => (h.diagnosticsLimit hf).symm⟩

theorem trans (h : Agree free s s') (h' : Agree free s' s'') : Agree free s s'' :=
  ⟨h.sources.trans h'.sources, h.seenErrors.trans h'.seenErrors,
    fun hf => (h.allowErrors hf).trans (h'.allowErrors hf),
    fun hf => (h.width hf).trans (h'.width hf),
    fun hf => (h.outputLimit hf).trans (h'.outputLimit hf),
    fun hf => (h.diagnosticsLimit hf).trans (h'.diagnosticsLimit hf)⟩

/-- A step that is done in both sessions keeps the agreement. -/
theorem step_both (h : Agree free s s') (step : Step) :
    Agree free (s.step step).value.2 (s'.step step).value.2 := by
  have he := step_effect s step
  have he' := step_effect s' step
  refine ⟨?_, ?_, fun hf => ?_, fun hf => ?_, fun hf => ?_, fun hf => ?_⟩
  · rw [he.sources, he'.sources, h.sources]
  · rw [he.seenErrors, he'.seenErrors, h.sources, h.seenErrors]
  · rw [he.allowErrors, he'.allowErrors, h.allowErrors hf]
  · rw [he.width, he'.width, h.width hf]
  · rw [(outlets_step s step).1, (outlets_step s' step).1, h.outputLimit hf]
  · rw [(outlets_step s step).2, (outlets_step s' step).2, h.diagnosticsLimit hf]

/-- So does a step about a free setting that is done in one of them. -/
theorem step_left (h : Agree free s s') (hk : step.isKept free = false) :
    Agree free (s.step step).value.2 s' := by
  obtain ⟨setting, hs, hfree⟩ := isKept_eq_false_iff.1 hk
  cases step with
  | allowErrors allow =>
    cases hs
    exact { h with allowErrors := fun hf => absurd hfree hf }
  | width columns =>
    cases hs
    exact { h with width := fun hf => absurd hfree hf }
  | limitOutput limit | blockOutput reason =>
    cases hs
    exact { h with outputLimit := fun hf => absurd hfree hf }
  | limitDiagnostics limit | blockDiagnostics reason =>
    cases hs
    exact { h with diagnosticsLimit := fun hf => absurd hfree hf }
  | _ => cases hs

end Agree

/-! ### Runs -/

/-- The steps of a run, each with the session in which it is done. -/
def trace (s : Session) : List Step → List (Session × Step)
  | [] => []
  | step :: steps => (s, step) :: trace (s.step step).value.2 steps

/-- The trace of a run tells its records. -/
theorem map_recordOf_trace (s : Session) (steps : List Step) :
    (trace s steps).map (fun e => e.1.recordOf e.2) = (run s steps).1 := by
  induction steps generalizing s with
  | nil => rfl
  | cons step steps ih => rw [trace, List.map_cons, ih, run_cons]

/-- The trace of a run without the steps about some settings. -/
def keptTrace (free : List Setting) (s : Session) (steps : List Step) : List (Session × Step) :=
  (trace s steps).filter (·.2.isKept free)

theorem keptTrace_of_kept (h : step.isKept free = true) (s : Session) (steps : List Step) :
    keptTrace free s (step :: steps) = (s, step) :: keptTrace free (s.step step).value.2 steps :=
  List.filter_cons_of_pos h

theorem keptTrace_of_free (h : step.isKept free = false) (s : Session) (steps : List Step) :
    keptTrace free s (step :: steps) = keptTrace free (s.step step).value.2 steps :=
  List.filter_cons_of_neg (Bool.eq_false_iff.1 h)

/-- The steps of two runs that begin with the empty session are the same, except for steps about some
settings, and each of them is related in the sessions in which it is done. -/
def Matching (free : List Setting) (R : Session → Session → Step → Prop)
    (steps steps' : List Step) : Prop :=
  List.Forall₂ (fun e e' => e.2 = e'.2 ∧ R e.1 e'.1 e.2)
    (keptTrace free empty steps) (keptTrace free empty steps')

/-- Steps about free settings can be left out of a run. -/
theorem forall₂_trace_without (h : Agree free s s') (steps : List Step) :
    List.Forall₂ (fun e e' => e.2 = e'.2 ∧ Agree free e.1 e'.1)
      (keptTrace free s steps) (trace s' (without free steps)) := by
  induction steps generalizing s s' with
  | nil => exact .nil
  | cons step steps ih =>
    cases hk : step.isKept free with
    | true =>
      have hw : without free (step :: steps) = step :: without free steps :=
        List.filter_cons_of_pos hk
      rw [hw, trace, keptTrace_of_kept hk]
      exact .cons ⟨rfl, h⟩ (ih (h.step_both step))
    | false =>
      have hw : without free (step :: steps) = without free steps :=
        List.filter_cons_of_neg (Bool.eq_false_iff.1 hk)
      rw [hw, keptTrace_of_free hk]
      exact ih (h.step_left hk)

/-- Two lists that are related to a third one are related to each other. -/
theorem forall₂_of_common {α β γ : Type} {P : α → γ → Prop} {Q : β → γ → Prop} {R : α → β → Prop}
    (hR : ∀ a b c, P a c → Q b c → R a b) {as : List α} {bs : List β} {cs : List γ}
    (hP : List.Forall₂ P as cs) (hQ : List.Forall₂ Q bs cs) : List.Forall₂ R as bs := by
  induction hP generalizing bs with
  | nil =>
    cases hQ
    exact .nil
  | cons hac _ ih =>
    obtain _ | ⟨hbc, hbs⟩ := hQ
    exact .cons (hR _ _ _ hac hbc) (ih hbs)

/-- **Runs that differ only in free settings stay in agreement.** -/
theorem matching_agree (h : without free steps = without free steps') :
    Matching free (fun s s' _ => Agree free s s') steps steps' := by
  have hleft := forall₂_trace_without (Agree.refl free empty) steps
  have hright := forall₂_trace_without (Agree.refl free empty) steps'
  rw [h] at hleft
  refine forall₂_of_common (fun e e' e'' hl hr => ?_) hleft hright
  exact ⟨hl.1.trans hr.1.symm, hl.2.trans hr.2.symm⟩

theorem Matching.imp {R R' : Session → Session → Step → Prop} (h : Matching free R steps steps')
    (hR : ∀ s s' step, R s s' step → R' s s' step) : Matching free R' steps steps' :=
  List.Forall₂.imp (fun _ _ he => ⟨he.1, hR _ _ _ he.2⟩) h

/-! ### What does not interfere -/

/-- **Settings that do not interfere.**  Runs that differ only in whether errors are allowed, in the
width, and in the limits of the diagnostics end their steps in the same way.  Where errors are allowed in
both or in none, the steps hand on the same output.  Runs that differ only in the limits of the output
report the same diagnostics, load sources under the same numbers, and end a step differently only if its
own output is refused in one of them. -/
theorem noninterference (steps steps' : List Step) :
    (without [.allowErrors, .width, .diagnosticsLimit] steps =
        without [.allowErrors, .width, .diagnosticsLimit] steps' →
      Matching [.allowErrors, .width, .diagnosticsLimit] (fun s s' step =>
        (s.recordOf step).reply = (s'.recordOf step).reply ∧
          (s.allowErrors = s'.allowErrors → s.handedOutput step = s'.handedOutput step))
        steps steps') ∧
    (without [.width, .diagnosticsLimit] steps = without [.width, .diagnosticsLimit] steps' →
      Matching [.width, .diagnosticsLimit] (fun s s' step =>
        (s.recordOf step).reply = (s'.recordOf step).reply ∧
          s.handedOutput step = s'.handedOutput step ∧
          (s.recordOf step).output = (s'.recordOf step).output)
        steps steps') ∧
    (without [.outputLimit] steps = without [.outputLimit] steps' →
      Matching [.outputLimit] (fun s s' step =>
        s.handedDiagnostics step = s'.handedDiagnostics step ∧
          (s.recordOf step).diagnostics = (s'.recordOf step).diagnostics ∧
          s.handedOutput step = s'.handedOutput step ∧
          (step.isLoad = true → (s.recordOf step).reply = (s'.recordOf step).reply) ∧
          ((s.recordOf step).reply = (s'.recordOf step).reply ∨ s.Refused step ∨ s'.Refused step))
        steps steps') ∧
    ∀ (s : Session) (step : Step), step.setting?.isSome →
      s.handedOutput step = "" ∧ s.handedDiagnostics step = "" := by
  refine ⟨fun h => ?_, fun h => ?_, fun h => ?_, fun s step hs => handed_of_setting s hs⟩
  · refine (matching_agree h).imp fun s s' step ha => ⟨?_, fun hallow => ?_⟩
    · exact reply_congr ha.sources ha.seenErrors (ha.outputLimit (by decide)) step
    · exact handedOutput_congr ha.sources ha.seenErrors hallow step
  · refine (matching_agree h).imp fun s s' step ha => ?_
    have hallow := ha.allowErrors (by decide)
    have hlimit := ha.outputLimit (by decide)
    exact ⟨reply_congr ha.sources ha.seenErrors hlimit step,
      handedOutput_congr ha.sources ha.seenErrors hallow step,
      output_congr ha.sources ha.seenErrors hallow hlimit step⟩
  · refine (matching_agree h).imp fun s s' step ha => ?_
    have hallow := ha.allowErrors (by decide)
    have hlimit := ha.diagnosticsLimit (by decide)
    refine ⟨handedDiagnostics_congr ha.sources step, diagnostics_congr ha.sources hlimit step,
      handedOutput_congr ha.sources ha.seenErrors hallow step, fun hl => ?_,
      reply_congr_or_refused ha.sources ha.seenErrors step⟩
    rw [recordOf, recordOf, reply_of_isLoad s hl, reply_of_isLoad s' hl, ha.sources]

/-- A source is compiled that has an empty schema, and no output is taken. -/
def refusingSteps : List Step :=
  [.add "a" "[]", .limitOutput (some ⟨0, "full"⟩), .compile 0, .fields 1]

/-- The same, but the output is taken. -/
def acceptingSteps : List Step := [.add "a" "[]", .compile 0, .fields 1]

theorem noninterference_refusingSteps :
    ∃ s s' : Session, (keptTrace [.outputLimit] empty refusingSteps)[1]? = some (s, Step.compile 0) ∧
      (keptTrace [.outputLimit] empty acceptingSteps)[1]? = some (s', Step.compile 0) ∧
      s.Refused (.compile 0) ∧ (s.recordOf (.compile 0)).diagnostics =
        (s'.recordOf (.compile 0)).diagnostics := by
  obtain ⟨-, -, h, -⟩ := noninterference refusingSteps acceptingSteps
  have hmatching : List.Forall₂ _ [(_, Step.add "a" "[]"), (_, Step.compile 0), (_, Step.fields 1)]
      [(_, Step.add "a" "[]"), (_, Step.compile 0), (_, Step.fields 1)] := h rfl
  obtain ⟨-, hrest⟩ := List.forall₂_cons.1 hmatching
  obtain ⟨⟨-, -, hdiagnostics, -⟩, -⟩ := List.forall₂_cons.1 hrest
  refine ⟨_, _, rfl, rfl, ⟨"full", ?_⟩, hdiagnostics⟩
  decide +kernel

end Session

end TlvSchema
