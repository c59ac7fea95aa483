import TlvSchema.Proofs.Session

/-!
# Refusals

A writer that refuses a text, or does not pass on what it has taken, does not go unnoticed: that is logged,
be it a diagnostic or the output of a command.  If nothing of the kind is logged, all texts have been taken
as a whole.

* `LogsRefusal` — an operation that cannot write its report logs that
* `taken_forContainers` — the reports on several containers
* `refusal_mem_events` — a command that cannot write its output logs that
* `output_of_unrefused`, `diagnostics_of_unrefused` — what is taken if no refusal is logged
-/

namespace TlvSchema

namespace Session

variable {α : Type} {s : Session} {outcome : Except Diagnostic Outcome} {number : ℕ}

/-! ### Reports -/

/-- The operation logs it if the diagnostic for its error cannot be written. -/
def LogsRefusal (x : SessionM (Option α)) (r : Except Diagnostic α) : Prop :=
  ∀ (s : Session) (d : Diagnostic) (reason : String), r = .error d →
    (s.diagnostics.write d.pieces).2 = some reason →
      .diagnosticNotWritten reason ∈ (x.run s).events

theorem logsRefusal_ok (x : SessionM (Option α)) (a : α) : LogsRefusal x (.ok a) :=
  fun _ _ _ h => nomatch h

theorem logsRefusal_error (d : Diagnostic) :
    LogsRefusal (do report d; pure none : SessionM (Option α)) (.error d) := by
  intro s d' reason hd hr
  cases hd
  rw [StateT.run_bind, Logged.events_bind, run_report, hr]
  exact List.mem_append_left _ (Logged.mem_events_iff.2 (List.mem_cons_of_mem _ List.mem_cons_self))

/-- Something may be done before. -/
theorem logsRefusal_bind {β : Type} {x : SessionM β} {f : β → SessionM (Option α)} {b : β}
    {r : Except Diagnostic α} (hx : ∀ s, (x.run s).value = (b, s)) (hf : LogsRefusal (f b) r) :
    LogsRefusal (x >>= f) r := by
  intro s d reason hd hr
  rw [StateT.run_bind, Logged.events_bind, hx]
  exact List.mem_append_right _ (hf s d reason hd hr)

theorem logsRefusal_compileContainer (table : CommonTable) (spec : ContainerSpec) :
    LogsRefusal (compileContainer table spec) (modelOf table spec) := by
  refine logsRefusal_bind (fun _ => rfl) ?_
  unfold modelOf
  cases (spec.compile table).run.value with
  | ok m => exact logsRefusal_ok _ m
  | error e => exact logsRefusal_error e.diagnostic

/-- **Reports on several containers.**  If no refusal is logged, they have been written one after the
other. -/
theorem taken_forContainers {f : ContainerSpec → SessionM (Option α)}
    {r : ContainerSpec → Except Diagnostic α} (hf : ∀ spec, Yields (f spec) (r spec))
    (hl : ∀ spec, LogsRefusal (f spec) (r spec)) {specs : List ContainerSpec}
    (h : ∀ e ∈ ((forContainers f specs).run s).events, e.isRefusal = false) :
    ((forContainers f specs).run s).value.2.diagnostics.taken = s.diagnostics.taken ++
      String.join ((specs.filterMap fun spec => defect? (r spec)).map Diagnostic.render) := by
  induction specs generalizing s with
  | nil => exact String.append_empty.symm
  | cons spec specs ih =>
    have hv := (hf spec s).2
    rw [forContainers, StateT.run_bind] at h ⊢
    rw [Logged.events_bind, List.forall_mem_append, hv, StateT.run_bind, Logged.events_bind,
      List.forall_mem_append] at h
    obtain ⟨hfirst, hrest, -⟩ := h
    rw [Logged.value_bind, hv, StateT.run_bind, Logged.value_bind]
    change ((forContainers f specs).run (s.settled (r spec)).2).value.2.diagnostics.taken = _
    rw [ih hrest]
    cases hr : r spec with
    | ok a => simp [settled, hr, defect?]
    | error d =>
      have hnone : (s.diagnostics.write d.pieces).2 = none := by
        rw [Option.eq_none_iff_forall_ne_some]
        intro reason hreason
        exact Bool.noConfusion (hfirst _ (hl spec s d reason hr hreason))
      have htaken : (s.reported d).diagnostics.taken = s.diagnostics.taken ++ d.render :=
        congrArg Outlet.taken (Outlet.write_of_none hnone)
      simp only [settled, hr, defect?, List.filterMap_cons, List.map_cons, String.join_cons, htaken,
        String.append_assoc]

/-! ### Output -/

/-- What a command logs after its source has been loaded. -/
theorem events_command {f : CommonTable → ContainerSpec → SessionM (Option α)}
    {r : CommonTable → ContainerSpec → Except Diagnostic α}
    (hf : ∀ table spec, Yields (f table spec) (r table spec)) (document : List α → Doc)
    {schema : Schema} (hs : schemaOf s.sources[number]? = .ok schema) :
    let outcome := outcomeOfSchema r document schema
    ((command f document number).run s).events = ((loadSchema number).run s).events ++
      (((forContainers (f schema.common) schema.containers).run s).events ++
        ((finish outcome.document).run (s.reportedAll outcome.reports)).events) := by
  obtain ⟨-, hv⟩ := loadSchema_spec number s
  obtain ⟨-, hvs⟩ := forContainers_spec (hf schema.common) schema.containers s
  rw [command, StateT.run_bind, Logged.events_bind, hv, hs]
  dsimp only [settled]
  rw [StateT.run_bind, Logged.events_bind, hvs]
  rfl

/-- **Output that is refused.**  A command that cannot write its output logs that. -/
theorem refusal_mem_events {f : CommonTable → ContainerSpec → SessionM (Option α)}
    {r : CommonTable → ContainerSpec → Except Diagnostic α}
    (hf : ∀ table spec, Yields (f table spec) (r table spec)) (document : List α → Doc)
    {reason : String} (h : s.refusal? (outcomeOf r document s.sources[number]?) = some reason) :
    .outputNotWritten reason ∈ ((command f document number).run s).events := by
  cases hs : schemaOf s.sources[number]? with
  | error d =>
    -- without a schema nothing is written
    rw [outcomeOf, hs] at h
    cases h
  | ok schema =>
    rw [outcomeOf, hs] at h
    have hfin := run_finish (s.reportedAll (outcomeOfSchema r document schema).reports)
      (outcomeOfSchema r document schema)
    rw [events_command hf document hs, hfin]
    refine List.mem_append_right _ (List.mem_append_right _ (Logged.mem_events_iff.2 ?_))
    exact List.mem_map_of_mem (f := fun reason => Entry.event (.outputNotWritten reason))
      (Option.mem_toList.2 h)

theorem refusal_mem_events_step {step : Step} {reason : String}
    (h : step.outcome? s.sources = some outcome) (hr : s.restarted.refusal? outcome = some reason) :
    .outputNotWritten reason ∈ (s.step step).events := by
  cases step with
  | compile number =>
    cases h
    rw [Session.step, perform, ← restarted, events_run_ended]
    exact refusal_mem_events yields_compileContainer Summary.document hr
  | fields number =>
    cases h
    rw [Session.step, perform, ← restarted, events_run_ended]
    exact refusal_mem_events yields_listContainer FieldListing.document hr
  | _ => cases h

/-! ### Steps -/

section

variable {step : Step} {o : Outcome} (h : step.outcome? s.sources = some (.ok o))

include h

/-- Output is held back because of errors that are not allowed. -/
theorem output_of_errors (ha : s.allowErrors = false) (he : s.seenErrors = true ∨ o.reports ≠ []) :
    (s.recordOf step).output.taken = "" := by
  have herrors : (s.restarted.seenErrors || (reportsOf (.ok o)).any (·.isError)) = true := by
    rw [any_isError_of_outcome h, Bool.or_eq_true, Bool.not_eq_true', ← Bool.not_eq_true,
      List.isEmpty_iff]
    exact he
  rw [recordOf, (step_of_outcome h).1]
  exact congrArg Outlet.taken (concluded_of_held_back s.restarted (.ok o) (.inr ⟨ha, herrors⟩)).1

/-- Otherwise the document is handed to the writer. -/
theorem output_of_free (hf : s.allowErrors = true ∨ s.seenErrors = false ∧ o.reports = []) :
    (s.recordOf step).output = (s.output.restart.write (textOf s.width o)).1 ∧
      s.restarted.refusal? (.ok o) = (s.output.restart.write (textOf s.width o)).2 := by
  have hfree : s.restarted.allowErrors = true ∨
      (s.restarted.seenErrors || o.reports.any (·.isError)) = false := by
    refine hf.imp_right fun hnone => ?_
    rw [hnone.2, show s.restarted.seenErrors = false from hnone.1]
    rfl
  rw [recordOf, (step_of_outcome h).1]
  exact concluded_of_ok s.restarted o hfree

/-- If nothing is refused, it is then written as a whole. -/
theorem output_of_unrefused (hw : ∀ e ∈ (s.step step).events, e.isRefusal = false)
    (hf : s.allowErrors = true ∨ s.seenErrors = false ∧ o.reports = []) :
    (s.recordOf step).output.taken = o.document.render s.width ++ "\n" := by
  have hrefusal : s.restarted.refusal? (.ok o) = none := by
    rw [Option.eq_none_iff_forall_ne_some]
    intro reason hr
    exact Bool.noConfusion (hw _ (refusal_mem_events_step h hr))
  obtain ⟨hout, href⟩ := output_of_free h hf
  rw [hout, Outlet.write_of_none (href.symm.trans hrefusal), join_textOf]
  exact String.empty_append

end

/-- If nothing is refused, the diagnostics of a compilation are written as a whole. -/
theorem diagnostics_of_unrefused {schema : Schema}
    (hs : schemaOf s.sources[number]? = .ok schema)
    (hw : ∀ e ∈ (s.step (.compile number)).events, e.isRefusal = false) :
    (s.recordOf (.compile number)).diagnostics.taken =
      String.join ((outcomeOfSchema modelOf Summary.document schema).reports.map
        Diagnostic.render) := by
  -- nothing is refused while the containers are compiled
  have hcontainers : ∀ e ∈ ((forContainers (compileContainer schema.common)
      schema.containers).run s.restarted).events, e.isRefusal = false := by
    intro e he
    refine hw e ?_
    rw [Session.step, perform, ← restarted, events_run_ended, compile,
      events_command (s := s.restarted) yields_compileContainer Summary.document hs]
    exact List.mem_append_right _ (List.mem_append_left _ he)
  have htaken := taken_forContainers (yields_compileContainer schema.common)
    (logsRefusal_compileContainer schema.common) hcontainers
  rw [(forContainers_spec (yields_compileContainer schema.common) schema.containers s.restarted).2]
    at htaken
  rw [recordOf, (step_of_outcome (outcome_compile hs)).1]
  exact htaken.trans String.empty_append

end Session

end TlvSchema
