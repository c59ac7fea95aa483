import TlvSchema.Proofs.Refusals
import TlvSchema.Proofs.Summary

/-!
# What the writers get from a step

What a step writes depends on a part of the session only: on the sources and the errors so far, for
output also on whether errors are allowed, and on the outlet that is written to.  The width does not matter,
since no document of a command has a group.

* `Session.handedOutput`, `Session.handedDiagnostics` — what a step hands to the two writers
* `outlets_step` — a step does not change how the outlets behave, unless it is there to do so
* `output_congr`, `diagnostics_congr` — what the texts that are taken depend on
* `reply_congr`, `reply_congr_or_refused` — what the reply depends on
-/

namespace TlvSchema

namespace Outlet

theorem restart_write (o : Outlet) (pieces : List String) : (o.write pieces).1.restart = o.restart :=
  rfl

theorem eq_of_restart {o o' : Outlet} (h : o.restart = o'.restart) (ht : o.taken = o'.taken) :
    o = o' := by
  cases o
  cases o'
  simp_all [restart]

end Outlet

namespace Session

variable {s s' : Session} {step : Step} {outcome : Except Diagnostic Outcome}

/-- The text that a step hands to the writer of output: what is written if nothing is refused. -/
def handedOutput (s : Session) (step : Step) : String :=
  ({ s with output := .unlimited }.step step).value.2.output.taken

/-- The text that a step hands to the writer of diagnostics: what is written if nothing is refused. -/
def handedDiagnostics (s : Session) (step : Step) : String :=
  ({ s with diagnostics := .unlimited }.step step).value.2.diagnostics.taken

/-! ### Documents -/

theorem rigid_of_listingOf {table : CommonTable} {spec : ContainerSpec} {d : Doc}
    (h : listingOf table spec = .ok d) : d.Rigid := by
  unfold listingOf at h
  cases hf : spec.fields with
  | none =>
    rw [hf] at h
    cases h
    exact FieldListing.rigid_emptyContainer _
  | some entries =>
    simp only [hf] at h
    cases hr : resolveFields spec.fullName entries table with
    | error e => simp [hr, Functor.map, Except.map, Except.mapError] at h
    | ok fields =>
      rw [hr] at h
      cases h
      exact FieldListing.rigid_container _ _

theorem rigid_of_mem_listings {table : CommonTable} {specs : List ContainerSpec} :
    ∀ d ∈ specs.filterMap fun spec => (listingOf table spec).toOption, d.Rigid := by
  intro d hd
  obtain ⟨spec, -, hspec⟩ := List.mem_filterMap.1 hd
  cases hl : listingOf table spec with
  | error e => simp [hl, Except.toOption] at hspec
  | ok d' =>
    have hd' : d' = d := by simpa [hl, Except.toOption] using hspec
    exact hd' ▸ rigid_of_listingOf hl

/-- The documents of commands have no groups. -/
theorem rigid_of_outcome {sources : List Source} {o : Outcome}
    (h : step.outcome? sources = some (.ok o)) : o.document.Rigid := by
  cases step with
  | compile number =>
    obtain ⟨schema, -, rfl⟩ := map_eq_ok_iff.1 (Option.some.inj h)
    exact Summary.rigid_document _
  | fields number =>
    obtain ⟨schema, -, rfl⟩ := map_eq_ok_iff.1 (Option.some.inj h)
    exact FieldListing.rigid_document rigid_of_mem_listings
  | _ => cases h

/-- The width does not matter for what a command writes. -/
theorem textOf_congr {sources : List Source} {o : Outcome}
    (h : step.outcome? sources = some (.ok o)) (width width' : Option ℕ) :
    textOf width o = textOf width' o := by
  rw [textOf, textOf, Doc.pieces_of_rigid (rigid_of_outcome h),
    Doc.pieces_of_rigid (rigid_of_outcome h)]

/-! ### Outlets -/

/-- What a step does to the outlet of output, if it is there to do that. -/
def Step.adjustOutput : Step → Outlet → Outlet
  | .limitOutput limit, o => { o with limit }
  | .blockOutput reason, o => { o with blocked := reason }
  | _, o => o

/-- What a step does to the outlet of diagnostics, if it is there to do that. -/
def Step.adjustDiagnostics : Step → Outlet → Outlet
  | .limitDiagnostics limit, o => { o with limit }
  | .blockDiagnostics reason, o => { o with blocked := reason }
  | _, o => o

theorem restart_written (s : Session) (d : Option Doc) :
    (s.written d).1.restart = s.output.restart := by
  cases d with
  | none => rfl
  | some d => exact Outlet.restart_write _ _

theorem restart_foldl_write (ds : List Diagnostic) (o : Outlet) :
    (ds.foldl (fun o d => (o.write d.pieces).1) o).restart = o.restart := by
  induction ds generalizing o with
  | nil => rfl
  | cons d ds ih => rw [List.foldl_cons, ih, Outlet.restart_write]

theorem outlets_of_outcome (h : step.outcome? s.sources = some outcome) :
    (s.step step).value.2.output.restart = s.output.restart ∧
      (s.step step).value.2.diagnostics.restart = s.diagnostics.restart := by
  rw [(step_of_outcome h).1]
  constructor
  · exact (restart_written _ _).trans (by rw [reportedAll_eq]; rfl)
  · dsimp only [concluded]
    rw [reportedAll_eq]
    exact restart_foldl_write _ _

/-- But for what it writes, a step does not change the outlets, unless it is there to do so. -/
theorem outlets_step (s : Session) (step : Step) :
    (s.step step).value.2.output.restart = step.adjustOutput s.output.restart ∧
      (s.step step).value.2.diagnostics.restart = step.adjustDiagnostics s.diagnostics.restart := by
  cases step with
  | read name content =>
    rw [(step_read s name content).2]
    cases decodeText content with
    | ok text => exact ⟨rfl, rfl⟩
    | error e => exact ⟨rfl, Outlet.restart_write _ _⟩
  | compile number | fields number => exact outlets_of_outcome rfl
  | _ => exact ⟨rfl, rfl⟩

/-! ### What is taken -/

/-- The output of a command is held back, or its document is written. -/
theorem held_back_or_free (s : Session) (outcome : Except Diagnostic Outcome) :
    ((∀ o, outcome ≠ .ok o) ∨
        s.allowErrors = false ∧ (s.seenErrors || (reportsOf outcome).any (·.isError)) = true) ∨
      ∃ o, outcome = .ok o ∧
        (s.allowErrors = true ∨ (s.seenErrors || o.reports.any (·.isError)) = false) := by
  cases outcome with
  | error d => exact .inl (.inl fun o h => nomatch h)
  | ok o =>
    cases ha : s.allowErrors with
    | true => exact .inr ⟨o, rfl, .inl rfl⟩
    | false =>
      cases he : s.seenErrors || o.reports.any (·.isError) with
      | true => exact .inl (.inr ⟨rfl, he⟩)
      | false => exact .inr ⟨o, rfl, .inr he⟩

/-- **Output** depends on the sources, the errors so far, whether they are allowed, and its outlet. -/
theorem output_congr (hs : s.sources = s'.sources) (he : s.seenErrors = s'.seenErrors)
    (ha : s.allowErrors = s'.allowErrors) (hl : s.output.restart = s'.output.restart) (step : Step) :
    (s.step step).value.2.output = (s'.step step).value.2.output := by
  cases ho : step.outcome? s.sources with
  | none =>
    have ho' : step.outcome? s'.sources = none := hs ▸ ho
    refine Outlet.eq_of_restart ?_ ((step_of_no_outcome ho).2.trans (step_of_no_outcome ho').2.symm)
    rw [(outlets_step s step).1, (outlets_step s' step).1, hl]
  | some outcome =>
    have ho' : step.outcome? s'.sources = some outcome := hs ▸ ho
    have hrestart : s.restarted.output = s'.restarted.output := hl
    rw [(step_of_outcome ho).1, (step_of_outcome ho').1]
    rcases held_back_or_free s.restarted outcome with hb | ⟨o, rfl, hf⟩
    · have hb' : (∀ o, outcome ≠ .ok o) ∨ s'.restarted.allowErrors = false ∧
          (s'.restarted.seenErrors || (reportsOf outcome).any (·.isError)) = true :=
        hb.imp_right fun ⟨hallow, herrors⟩ => ⟨ha ▸ hallow, he ▸ herrors⟩
      exact (concluded_of_held_back _ _ hb).1.trans
        (hrestart.trans (concluded_of_held_back _ _ hb').1.symm)
    · have hf' : s'.restarted.allowErrors = true ∨
          (s'.restarted.seenErrors || o.reports.any (·.isError)) = false :=
        hf.imp (fun hallow => ha ▸ hallow) fun herrors => he ▸ herrors
      have htext := textOf_congr ho s.restarted.width s'.restarted.width
      calc
        (s.restarted.concluded (.ok o)).2.output
            = (s.restarted.output.write (textOf s.restarted.width o)).1 :=
          (concluded_of_ok _ o hf).1
        _ = (s'.restarted.output.write (textOf s'.restarted.width o)).1 := by rw [hrestart, htext]
        _ = (s'.restarted.concluded (.ok o)).2.output := (concluded_of_ok _ o hf').1.symm

theorem handedOutput_congr (hs : s.sources = s'.sources) (he : s.seenErrors = s'.seenErrors)
    (ha : s.allowErrors = s'.allowErrors) (step : Step) :
    s.handedOutput step = s'.handedOutput step := by
  have h := @output_congr { s with output := .unlimited } { s' with output := .unlimited } hs he ha
    rfl step
  exact congrArg Outlet.taken h

/-- **Diagnostics** depend on the sources and their outlet. -/
theorem diagnostics_congr (hs : s.sources = s'.sources)
    (hl : s.diagnostics.restart = s'.diagnostics.restart) (step : Step) :
    (s.step step).value.2.diagnostics = (s'.step step).value.2.diagnostics := by
  apply Outlet.eq_of_restart
  · rw [(outlets_step s step).2, (outlets_step s' step).2, hl]
  · rw [(step_effect s step).diagnostics, (step_effect s' step).diagnostics, hs, hl]

theorem handedDiagnostics_congr (hs : s.sources = s'.sources) (step : Step) :
    s.handedDiagnostics step = s'.handedDiagnostics step := by
  have h := @diagnostics_congr { s with diagnostics := .unlimited }
    { s' with diagnostics := .unlimited } hs rfl step
  exact congrArg Outlet.taken h

/-! ### Replies -/

/-- The output of a step is refused. -/
def Refused (s : Session) (step : Step) : Prop :=
  ∃ reason, .outputNotWritten reason ∈ (s.recordOf step).events

theorem status_eq_of_success_iff {a b : Status} (h : a = .success ↔ b = .success) : a = b := by
  cases a <;> cases b <;> simp_all

/-- The reply to a step that is no command tells at most how many sources there are. -/
theorem reply_of_no_outcome (h : step.outcome? s.sources = none) (hs : s.sources = s'.sources) :
    (s.step step).value.1 = (s'.step step).value.1 := by
  cases step with
  | add name text | read name content => rw [reply_of_isLoad s rfl, reply_of_isLoad s' rfl, hs]
  | compile number | fields number => cases h
  | _ => rfl

/-- Commands end in the same way if either both or none of them have their output refused. -/
theorem reply_of_outcome (ho : step.outcome? s.sources = some outcome) (hs : s.sources = s'.sources)
    (he : s.seenErrors = s'.seenErrors)
    (hr : (s.seenErrors || (reportsOf outcome).any (·.isError)) = false →
      (s.restarted.refusal? outcome = none ↔ s'.restarted.refusal? outcome = none)) :
    (s.step step).value.1 = (s'.step step).value.1 := by
  have ho' : step.outcome? s'.sources = some outcome := hs ▸ ho
  have herrors : (s'.restarted.seenErrors || (reportsOf outcome).any (·.isError)) =
      (s.restarted.seenErrors || (reportsOf outcome).any (·.isError)) := congrArg (· || _) he.symm
  rw [(step_of_outcome ho).1, (step_of_outcome ho').1]
  refine congrArg Reply.ended (status_eq_of_success_iff ?_)
  rw [concluded_success_iff, concluded_success_iff, herrors]
  exact and_congr_right hr

/-- **How a step ends** depends on the sources, the errors so far, and the outlet of output. -/
theorem reply_congr (hs : s.sources = s'.sources) (he : s.seenErrors = s'.seenErrors)
    (hl : s.output.restart = s'.output.restart) (step : Step) :
    (s.step step).value.1 = (s'.step step).value.1 := by
  cases ho : step.outcome? s.sources with
  | none => exact reply_of_no_outcome ho hs
  | some outcome =>
    refine reply_of_outcome ho hs he fun hnone => ?_
    -- without errors the document is written in both sessions
    cases outcome with
    | error d =>
      rw [any_isError_of_outcome ho] at hnone
      simp [reportsOf] at hnone
    | ok o =>
      have hrestart : s.restarted.output = s'.restarted.output := hl
      have hnone' : (s'.restarted.seenErrors || o.reports.any (·.isError)) = false := he ▸ hnone
      rw [(concluded_of_ok s.restarted o (.inr hnone)).2,
        (concluded_of_ok s'.restarted o (.inr hnone')).2, hrestart,
        textOf_congr ho s.restarted.width s'.restarted.width]

/-- If the outlets of output are different, a step may end in two ways only if its output is refused. -/
theorem reply_congr_or_refused (hs : s.sources = s'.sources) (he : s.seenErrors = s'.seenErrors)
    (step : Step) :
    (s.step step).value.1 = (s'.step step).value.1 ∨ s.Refused step ∨ s'.Refused step := by
  cases ho : step.outcome? s.sources with
  | none => exact .inl (reply_of_no_outcome ho hs)
  | some outcome =>
    have ho' : step.outcome? s'.sources = some outcome := hs ▸ ho
    cases hr : s.restarted.refusal? outcome with
    | some reason => exact .inr (.inl ⟨reason, refusal_mem_events_step ho hr⟩)
    | none =>
      cases hr' : s'.restarted.refusal? outcome with
      | some reason => exact .inr (.inr ⟨reason, refusal_mem_events_step ho' hr'⟩)
      | none => exact .inl (reply_of_outcome ho hs he fun _ => iff_of_true hr hr')

end Session

end TlvSchema
