import TlvSchema.Proofs.Command

/-!
# Sessions, step by step

What a session knows after several steps is read off the steps: the sources that they load, the
settings that they make, and the diagnostics that they raise.

* `loaded`, `allowed`, `columns` — the sources and the settings after several steps
* `Step.raised`, `raisedBy` — the diagnostics that a step raises, and those of several steps
* `Effect` — what a step does to a session
* `knows_after` — what a session knows after several steps
* `run_commands` — the numbers of sources, how commands end, and when nothing is written
-/

namespace TlvSchema

namespace Session

variable {s s' : Session} {step : Step} {outcome : Except Diagnostic Outcome}

/-! ### What steps ask for -/

/-- The source that a step loads, if it can be read. -/
def Step.source? : Step → Option Source
  | .add name text => some ⟨name, text⟩
  | .read name content => (decodeText content).toOption.map fun text => ⟨name, text⟩
  | _ => none

/-- Whether a step is to load a source. -/
def Step.isLoad : Step → Bool
  | .add _ _ | .read _ _ => true
  | _ => false

/-- The number of the source that a command is for. -/
def Step.number? : Step → Option Nat
  | .compile number | .fields number => some number
  | _ => none

/-- What a step says about whether errors are allowed. -/
def Step.allows? : Step → Option Bool
  | .allowErrors allow => some allow
  | _ => none

/-- What a step says about the width of the output. -/
def Step.columns? : Step → Option (Option Nat)
  | .width columns => some columns
  | _ => none

/-- The outcome of a command on its source. -/
def Step.outcome? (sources : List Source) : Step → Option (Except Diagnostic Outcome)
  | .compile number => some (outcomeOf modelOf Summary.document sources[number]?)
  | .fields number => some (outcomeOf listingOf FieldListing.document sources[number]?)
  | _ => none

/-- The diagnostics that a step raises. -/
def Step.raised (sources : List Source) : Step → List Diagnostic
  | .read name content => match decodeText content with
    | .ok _ => []
    | .error e => [readDiagnostic name e]
  | step => ((step.outcome? sources).map reportsOf).getD []

/-- Whether a command finds no defect in a container. -/
def Step.Accepts (table : CommonTable) (spec : ContainerSpec) : Step → Prop
  | .compile _ => ∃ m, (spec.compile table).run.value = .ok m
  | .fields _ => ∀ entries, spec.fields = some entries →
    ∃ fields, resolveFields spec.fullName entries table = .ok fields
  | _ => True

theorem defect?_modelOf_eq_none_iff {table : CommonTable} {spec : ContainerSpec} {n : Nat} :
    defect? (modelOf table spec) = none ↔ (Step.compile n).Accepts table spec := by
  rw [modelOf, Step.Accepts]
  cases (spec.compile table).run.value <;> simp [Except.mapError, defect?]

theorem defect?_listingOf_eq_none_iff {table : CommonTable} {spec : ContainerSpec} {n : Nat} :
    defect? (listingOf table spec) = none ↔ (Step.fields n).Accepts table spec := by
  rw [listingOf, Step.Accepts]
  cases spec.fields with
  | none => simp [defect?]
  | some entries =>
    cases hr : resolveFields spec.fullName entries table <;>
      simp [Functor.map, Except.map, Except.mapError, defect?, hr]

theorem reportsOf_outcomeOf_eq_nil_iff {α : Type} {source : Option Source}
    {r : CommonTable → ContainerSpec → Except Diagnostic α} {document : List α → Doc} :
    reportsOf (outcomeOf r document source) = [] ↔
      ∃ schema, schemaOf source = .ok schema ∧
        ∀ spec ∈ schema.containers, defect? (r schema.common spec) = none := by
  rw [outcomeOf]
  cases schemaOf source with
  | error d => simp [Functor.map, Except.map, reportsOf]
  | ok schema =>
    simp only [Except.ok.injEq, exists_eq_left']
    exact List.filterMap_eq_nil_iff

/-- A diagnostic is raised by a load that fails, and by a command for a source that does not exist,
has no schema or has a container with a defect. -/
theorem raised_eq_nil_iff {sources : List Source} :
    step.raised sources = [] ↔
      (step.isLoad = true → step.source?.isSome) ∧
        ∀ number, step.number? = some number →
          ∃ schema, schemaOf sources[number]? = .ok schema ∧
            ∀ spec ∈ schema.containers, step.Accepts schema.common spec := by
  cases step with
  | read name content =>
    cases hd : decodeText content <;>
      simp [Step.raised, Step.isLoad, Step.source?, Step.number?, hd, Except.toOption]
  | compile n =>
    refine (reportsOf_outcomeOf_eq_nil_iff (r := modelOf)).trans ?_
    simp only [defect?_modelOf_eq_none_iff (n := n), Step.isLoad, Step.number?]
    simp
  | fields n =>
    refine (reportsOf_outcomeOf_eq_nil_iff (r := listingOf)).trans ?_
    simp only [defect?_listingOf_eq_none_iff (n := n), Step.isLoad, Step.number?]
    simp
  | _ => simp [Step.raised, Step.outcome?, Step.isLoad, Step.source?, Step.number?]

/-! ### What several steps ask for -/

/-- The sources that steps load, in order. -/
def loaded (steps : List Step) : List Source := steps.filterMap Step.source?

/-- Whether errors are allowed after several steps. -/
def allowed (steps : List Step) : Bool := (steps.filterMap Step.allows?).getLast?.getD false

/-- The width of the output after several steps. -/
def columns (steps : List Step) : Option Nat := (steps.filterMap Step.columns?).getLast?.getD none

/-- The diagnostics that steps raise, beginning with some sources. -/
def raisedFrom : List Source → List Step → List Diagnostic
  | _, [] => []
  | sources, step :: steps =>
    step.raised sources ++ raisedFrom (sources ++ step.source?.toList) steps

/-- The diagnostics that several steps raise. -/
def raisedBy (steps : List Step) : List Diagnostic := raisedFrom [] steps

theorem loaded_append (steps steps' : List Step) :
    loaded (steps ++ steps') = loaded steps ++ loaded steps' :=
  List.filterMap_append

theorem loaded_singleton (step : Step) : loaded [step] = step.source?.toList := by
  cases h : step.source? <;> simp [loaded, h]

theorem raisedFrom_concat (sources : List Source) (steps : List Step) (step : Step) :
    raisedFrom sources (steps ++ [step]) =
      raisedFrom sources steps ++ step.raised (sources ++ loaded steps) := by
  induction steps generalizing sources with
  | nil => simp [raisedFrom, loaded]
  | cons first steps ih =>
    rw [List.cons_append, raisedFrom, ih, raisedFrom, List.append_assoc, List.append_assoc,
      ← loaded_singleton, ← loaded_append, List.singleton_append]

theorem raisedBy_concat (steps : List Step) (step : Step) :
    raisedBy (steps ++ [step]) = raisedBy steps ++ step.raised (loaded steps) := by
  rw [raisedBy, raisedFrom_concat, List.nil_append, ← raisedBy]

theorem getLast?_filterMap_concat {α β : Type} (f : α → Option β) (l : List α) (a : α) (b : β) :
    ((l ++ [a]).filterMap f).getLast?.getD b = (f a).getD ((l.filterMap f).getLast?.getD b) := by
  rw [List.filterMap_append]
  cases h : f a <;> simp [h]

/-! ### Steps -/

/-- What a step does to a session. -/
structure Effect (s : Session) (step : Step) (s' : Session) : Prop where
  /-- A source that is loaded follows the ones before. -/
  sources : s'.sources = s.sources ++ step.source?.toList
  /-- Only this setting allows errors. -/
  allowErrors : s'.allowErrors = step.allows?.getD s.allowErrors
  /-- Only this setting changes the width. -/
  width : s'.width = step.columns?.getD s.width
  /-- Errors are seen from the first diagnostic on. -/
  seenErrors : s'.seenErrors = (s.seenErrors || !(step.raised s.sources).isEmpty)
  /-- The diagnostics are written one after the other. -/
  diagnostics : s'.diagnostics.taken =
    ((step.raised s.sources).foldl (fun o d => (o.write d.pieces).1) s.diagnostics.restart).taken

/-- The session at the start of a step. -/
def restarted (s : Session) : Session :=
  { s with output := s.output.restart, diagnostics := s.diagnostics.restart }

theorem run_ended (x : SessionM Status) (s : Session) :
    (do return Reply.ended (← x) : SessionM Reply).run s =
      ⟨(.ended (x.run s).value.1, (x.run s).value.2), (x.run s).entries⟩ := by
  rw [StateT.run_bind]
  exact Logged.ext rfl (List.append_nil _)

theorem events_run_ended (x : SessionM Status) (s : Session) :
    ((do return Reply.ended (← x) : SessionM Reply).run s).events = (x.run s).events := by
  rw [run_ended]
  rfl

/-- A command concludes with its outcome. -/
theorem step_of_outcome (h : step.outcome? s.sources = some outcome) :
    (s.step step).value =
        (.ended (s.restarted.concluded outcome).1, (s.restarted.concluded outcome).2) ∧
      ∀ reason, Event.outputNotWritten reason ∈ (s.step step).events →
        s.restarted.refusal? outcome = some reason := by
  cases step with
  | compile number =>
    cases h
    obtain ⟨hv, he⟩ := command_spec yields_compileContainer Summary.document number s.restarted
    rw [Session.step, perform, ← restarted, run_ended, compile, hv]
    exact ⟨rfl, he⟩
  | fields number =>
    cases h
    obtain ⟨hv, he⟩ := command_spec yields_listContainer FieldListing.document number s.restarted
    rw [Session.step, perform, ← restarted, run_ended, fields, hv]
    exact ⟨rfl, he⟩
  | _ => cases h

theorem outcome_fields {sources : List Source} {number : ℕ} {schema : Schema}
    (h : schemaOf sources[number]? = .ok schema) : Step.outcome? sources (.fields number) =
      some (.ok (outcomeOfSchema listingOf FieldListing.document schema)) := by
  rw [Step.outcome?, outcomeOf, h]
  rfl

theorem outcome_compile {sources : List Source} {number : ℕ} {schema : Schema}
    (h : schemaOf sources[number]? = .ok schema) : Step.outcome? sources (.compile number) =
      some (.ok (outcomeOfSchema modelOf Summary.document schema)) := by
  rw [Step.outcome?, outcomeOf, h]
  rfl

theorem raised_of_outcome {sources : List Source} (h : step.outcome? sources = some outcome) :
    step.raised sources = reportsOf outcome := by
  cases step with
  | compile number | fields number =>
    cases h
    rfl
  | _ => cases h

/-- The diagnostics that a command reports are about errors. -/
theorem any_isError_of_outcome {sources : List Source} (h : step.outcome? sources = some outcome) :
    (reportsOf outcome).any (·.isError) = !(reportsOf outcome).isEmpty := by
  cases step with
  | compile number =>
    cases h
    exact any_isError (isError_of_mem_reportsOf serious_modelOf)
  | fields number =>
    cases h
    exact any_isError (isError_of_mem_reportsOf serious_listingOf)
  | _ => cases h

theorem effect_of_outcome (h : step.outcome? s.sources = some outcome) :
    Effect s step (s.step step).value.2 := by
  have hsilent : step.source? = none ∧ step.allows? = none ∧ step.columns? = none := by
    cases step with
    | compile number | fields number => exact ⟨rfl, rfl, rfl⟩
    | _ => cases h
  obtain ⟨hsource, hallows, hcolumns⟩ := hsilent
  rw [(step_of_outcome h).1]
  refine ⟨?_, ?_, ?_, ?_, ?_⟩ <;>
    simp only [concluded, reportedAll_eq, restarted, raised_of_outcome h,
      any_isError_of_outcome h, hsource, hallows, hcolumns, Option.toList_none, List.append_nil,
      Option.getD_none]

/-- A source that can be read is added, and one that cannot is reported. -/
theorem step_read (s : Session) (name : String) (content : Except ReadError ByteArray) :
    (s.step (.read name content)).Quiet ∧ (s.step (.read name content)).value =
      match decodeText content with
      | .ok text => (.loaded (some s.sources.length),
          { s.restarted with sources := s.sources ++ [⟨name, text⟩] })
      | .error e => (.loaded none, s.restarted.reported (readDiagnostic name e)) := by
  rw [Session.step, perform, ← restarted, StateT.run_bind, readSource]
  cases decodeText content with
  | ok text => exact ⟨.bind (Logged.all_pure _) fun _ => Logged.all_pure _, rfl⟩
  | error e =>
    obtain ⟨hq, hv⟩ := yields_error (α := Nat) (readDiagnostic name e) s.restarted
    refine ⟨.bind hq fun _ => Logged.all_pure _, ?_⟩
    rw [Logged.value_bind, hv]
    rfl

/-- Every step has its effect. -/
theorem step_effect (s : Session) (step : Step) : Effect s step (s.step step).value.2 := by
  cases step with
  | add name text => exact ⟨rfl, rfl, rfl, (Bool.or_false _).symm, rfl⟩
  | read name content =>
    rw [(step_read s name content).2]
    cases hd : decodeText content with
    | ok text => constructor <;> simp [Step.source?, Step.raised, Step.allows?, Step.columns?, hd,
        restarted, Except.toOption]
    | error e =>
      have he : (readDiagnostic name e).isError = true := rfl
      constructor <;> simp [Step.source?, Step.raised, Step.allows?, Step.columns?, hd, restarted,
        reported, he, Except.toOption]
  | compile number => exact effect_of_outcome rfl
  | fields number => exact effect_of_outcome rfl
  | allowErrors allow => exact ⟨(List.append_nil _).symm, rfl, rfl, (Bool.or_false _).symm, rfl⟩
  | width columns => exact ⟨(List.append_nil _).symm, rfl, rfl, (Bool.or_false _).symm, rfl⟩
  | limitOutput limit => exact ⟨(List.append_nil _).symm, rfl, rfl, (Bool.or_false _).symm, rfl⟩
  | limitDiagnostics limit =>
    exact ⟨(List.append_nil _).symm, rfl, rfl, (Bool.or_false _).symm, rfl⟩
  | blockOutput reason => exact ⟨(List.append_nil _).symm, rfl, rfl, (Bool.or_false _).symm, rfl⟩
  | blockDiagnostics reason =>
    exact ⟨(List.append_nil _).symm, rfl, rfl, (Bool.or_false _).symm, rfl⟩

/-- The reply to a load has the number of the source. -/
theorem reply_of_isLoad (s : Session) (h : step.isLoad = true) :
    (s.step step).value.1 = .loaded (step.source?.map fun _ => s.sources.length) := by
  cases step with
  | add name text => rfl
  | read name content =>
    rw [(step_read s name content).2]
    cases hd : decodeText content <;> simp [Step.source?, hd, Except.toOption]
  | _ => cases h

/-- A step that is no command writes no output. -/
theorem step_of_no_outcome (h : step.outcome? s.sources = none) :
    (s.step step).Quiet ∧ (s.step step).value.2.output.taken = "" := by
  cases step with
  | compile number | fields number => cases h
  | read name content =>
    obtain ⟨hq, hv⟩ := step_read s name content
    refine ⟨hq, ?_⟩
    rw [hv]
    cases decodeText content <;> rfl
  | _ => exact ⟨Logged.all_pure _, rfl⟩

/-! ### Runs -/

/-- What can be seen of a step that is done in a session. -/
def recordOf (s : Session) (step : Step) : Record :=
  ⟨(s.step step).value.1, (s.step step).entries, (s.step step).value.2.output,
    (s.step step).value.2.diagnostics⟩

/-- The session after several steps, beginning with the empty one. -/
def after (steps : List Step) : Session := (run empty steps).2

theorem run_cons (s : Session) (step : Step) (steps : List Step) :
    run s (step :: steps) =
      (s.recordOf step :: (run (s.step step).value.2 steps).1,
        (run (s.step step).value.2 steps).2) :=
  rfl

theorem run_append (s : Session) (steps steps' : List Step) :
    run s (steps ++ steps') =
      ((run s steps).1 ++ (run (run s steps).2 steps').1, (run (run s steps).2 steps').2) := by
  induction steps generalizing s with
  | nil => rfl
  | cons step steps ih => rw [List.cons_append, run_cons, run_cons, ih, List.cons_append]

theorem after_concat (steps : List Step) (step : Step) :
    after (steps ++ [step]) = ((after steps).step step).value.2 := by
  rw [after, run_append]
  rfl

theorem length_run (s : Session) (steps : List Step) : (run s steps).1.length = steps.length := by
  induction steps generalizing s with
  | nil => rfl
  | cons step steps ih => rw [run_cons, List.length_cons, ih, List.length_cons]

/-- Each step is done in the session after the steps before it. -/
theorem getElem?_run (steps : List Step) (step : Step) (later : List Step) :
    (run empty (steps ++ step :: later)).1[steps.length]? = some ((after steps).recordOf step) := by
  rw [run_append, run_cons, List.getElem?_append_right (length_run empty steps).le,
    length_run, Nat.sub_self]
  rfl

/-- What a session knows after several steps. -/
structure Knows (s : Session) (steps : List Step) : Prop where
  /-- The sources are those that were loaded. -/
  sources : s.sources = loaded steps
  /-- Errors are allowed as the last setting says. -/
  allowErrors : s.allowErrors = allowed steps
  /-- The width is the one of the last setting. -/
  width : s.width = columns steps
  /-- There have been errors if diagnostics were raised. -/
  seenErrors : s.seenErrors = !(raisedBy steps).isEmpty

theorem Knows.concat {steps : List Step} (h : Knows s steps) (hs : Effect s step s') :
    Knows s' (steps ++ [step]) where
  sources := by rw [hs.sources, h.sources, loaded_append, loaded_singleton]
  allowErrors := by rw [hs.allowErrors, h.allowErrors, allowed, allowed, getLast?_filterMap_concat]
  width := by rw [hs.width, h.width, columns, columns, getLast?_filterMap_concat]
  seenErrors := by
    rw [hs.seenErrors, h.seenErrors, h.sources, raisedBy_concat]
    cases raisedBy steps <;> simp

theorem knows_after (steps : List Step) : Knows (after steps) steps := by
  induction steps using List.reverseRecOn with
  | nil => exact ⟨rfl, rfl, rfl, rfl⟩
  | append_singleton steps step ih =>
    -- the last step begins with what is known after the steps before it
    rw [after_concat]
    exact ih.concat (step_effect _ _)

/-! ### Numbers of sources -/

/-- The number that a reply gives to a source. -/
def Reply.number? : Reply → Option Nat
  | .loaded number => number
  | _ => none

theorem number?_reply (s : Session) (step : Step) :
    (s.step step).value.1.number? = step.source?.map fun _ => s.sources.length := by
  cases hl : step.isLoad with
  | true =>
    rw [reply_of_isLoad s hl]
    rfl
  | false =>
    cases step with
    | add name text => cases hl
    | read name content => cases hl
    | compile number =>
      rw [(step_of_outcome rfl).1]
      rfl
    | fields number =>
      rw [(step_of_outcome rfl).1]
      rfl
    | _ => rfl

/-- The sources get the numbers from zero on, in the order in which they are loaded. -/
theorem numbers_run (steps : List Step) :
    (run empty steps).1.filterMap (·.reply.number?) = List.range (loaded steps).length := by
  induction steps using List.reverseRecOn with
  | nil => rfl
  | append_singleton steps step ih =>
    rw [run_append, List.filterMap_append, ih, ← after, run_cons, List.filterMap_cons, recordOf,
      number?_reply, (knows_after steps).sources, loaded_append, loaded_singleton]
    cases step.source? with
    | none => simp [run]
    | some source => simp [run, List.range_succ]

/-! ### Commands in a run -/

theorem exitCode_eq_zero_iff {status : Status} : status.exitCode = 0 ↔ status = .success := by
  cases status <;> simp [Status.exitCode]

section

variable {before : List Step} (h : step.outcome? (loaded before) = some outcome)

include h

theorem errors_after :
    ((after before).restarted.seenErrors || (reportsOf outcome).any (·.isError)) =
      !(raisedBy (before ++ [step])).isEmpty := by
  rw [any_isError_of_outcome h, raisedBy_concat, raised_of_outcome h, restarted,
    (knows_after before).seenErrors]
  cases raisedBy before <;> simp

theorem step_after :
    ((after before).step step).value =
        (.ended ((after before).restarted.concluded outcome).1,
          ((after before).restarted.concluded outcome).2) ∧
      ∀ reason, Event.outputNotWritten reason ∈ ((after before).step step).events →
        (after before).restarted.refusal? outcome = some reason :=
  step_of_outcome (by rw [(knows_after before).sources, h])

/-- A document that is not held back is handed on as a whole. -/
theorem output_after {o : Outcome} (ho : outcome = .ok o)
    (ha : allowed before = true ∨ raisedBy (before ++ [step]) = []) :
    ((after before).recordOf step).output =
        ((after before).output.restart.write (textOf (columns before) o)).1 ∧
      (after before).restarted.refusal? outcome =
        ((after before).output.restart.write (textOf (columns before) o)).2 := by
  subst ho
  have hk := knows_after before
  have hw : (after before).restarted.allowErrors = true ∨
      ((after before).restarted.seenErrors || o.reports.any (·.isError)) = false := by
    refine ha.imp (fun ha => hk.allowErrors.trans ha) fun hr => ?_
    have he := errors_after h
    rwa [hr] at he
  obtain ⟨hout, href⟩ := concluded_of_ok (after before).restarted o hw
  rw [recordOf, (step_after h).1, ← hk.width]
  exact ⟨hout, href⟩

/-- A command ends with success if nothing has been reported and its whole document was written and
passed on. -/
theorem concluded_after_success_iff :
    ((after before).restarted.concluded outcome).1 = .success ↔
      raisedBy (before ++ [step]) = [] ∧ ∃ o, outcome = .ok o ∧
        ((after before).recordOf step).output.taken =
          o.document.render (columns before) ++ "\n" ∧
        ((after before).recordOf step).output.blocked = none := by
  rw [concluded_success_iff, errors_after h, Bool.not_eq_false', List.isEmpty_iff]
  refine and_congr_right fun hnone => ?_
  -- without a diagnostic the source has a schema, and its document is not held back
  have he := errors_after h
  rw [hnone] at he
  cases outcome with
  | error d =>
    rw [any_isError_of_outcome h] at he
    simp [reportsOf] at he
  | ok o =>
    obtain ⟨hout, href⟩ := output_after h rfl (.inr hnone)
    rw [href, hout, Outlet.write_eq_none_iff (Outlet.fits_restart _), join_textOf]
    have htaken : (after before).output.restart.taken ++
        (o.document.render (columns before) ++ "\n") =
          o.document.render (columns before) ++ "\n" := String.empty_append
    rw [htaken]
    constructor
    · exact fun hw => ⟨o, rfl, hw⟩
    · rintro ⟨o', ho, hw⟩
      cases ho
      exact hw

/-- Nothing is written if the source has no schema, or because of errors. -/
theorem held_back_after
    (hb : (∀ o, outcome ≠ .ok o) ∨ allowed before = false ∧ raisedBy (before ++ [step]) ≠ []) :
    ((after before).recordOf step).output.taken = "" ∧
      ∀ reason, Event.outputNotWritten reason ∉ ((after before).recordOf step).events := by
  have hs : (∀ o, outcome ≠ .ok o) ∨ (after before).restarted.allowErrors = false ∧
      ((after before).restarted.seenErrors || (reportsOf outcome).any (·.isError)) = true := by
    refine hb.imp_right fun ⟨ha, hr⟩ => ⟨(knows_after before).allowErrors.trans ha, ?_⟩
    rw [errors_after h]
    simpa using hr
  obtain ⟨hout, href⟩ := concluded_of_held_back (after before).restarted outcome hs
  obtain ⟨hv, he⟩ := step_after h
  refine ⟨?_, fun reason hm => ?_⟩
  · rw [recordOf, hv]
    exact congrArg Outlet.taken hout
  · rw [he reason hm] at href
    cases href

end

/-- A command is for one source. -/
theorem exists_outcome {number : Nat} (h : step.number? = some number) (sources : List Source) :
    ∃ outcome, step.outcome? sources = some outcome ∧
      ∀ sources', sources'[number]? = sources[number]? → step.outcome? sources' = some outcome := by
  cases step with
  | compile n | fields n =>
    cases h
    refine ⟨_, rfl, fun sources' hs => ?_⟩
    rw [Step.outcome?, hs]
  | _ => cases h

/-- **Commands of a session.**  The sources that are loaded get the numbers from zero on, and those
that cannot be read get none.  A command works on the source with its number, whatever is loaded
later.  It ends with success if and only if no step up to it has raised a diagnostic and its whole
output was written and passed on.  No output is handed on by a step without a schema, nor by one with or after a
diagnostic unless errors are allowed. -/
theorem run_commands (before : List Step) (step : Step) (later : List Step) :
    (run empty (before ++ step :: later)).1.filterMap (·.reply.number?) =
        List.range (loaded (before ++ step :: later)).length ∧
      ∃ record, (run empty (before ++ step :: later)).1[before.length]? = some record ∧
        (step.isLoad = true →
          record.reply = .loaded (step.source?.map fun _ => (loaded before).length)) ∧
        (∀ number, step.number? = some number →
          ∃ outcome status, step.outcome? (loaded before) = some outcome ∧
            (number < (loaded before).length →
              step.outcome? (loaded (before ++ step :: later)) = some outcome) ∧
            record.reply = .ended status ∧
            (status.exitCode = 0 ↔ raisedBy (before ++ [step]) = [] ∧ ∃ o, outcome = .ok o ∧
              record.output.taken = o.document.render (columns before) ++ "\n" ∧
              record.output.blocked = none)) ∧
        (∀ o, step.outcome? (loaded before) = some (.ok o) →
          allowed before = true ∨ raisedBy (before ++ [step]) = [] →
          record.output = ((after before).output.restart.write (textOf (columns before) o)).1) ∧
        ((∀ o, step.outcome? (loaded before) ≠ some (.ok o)) ∨
            allowed before = false ∧ raisedBy (before ++ [step]) ≠ [] →
          record.output.taken = "" ∧ ∀ reason, Event.outputNotWritten reason ∉ record.events) ∧
        record.diagnostics.taken = ((step.raised (loaded before)).foldl
          (fun o d => (o.write d.pieces).1) (after before).diagnostics.restart).taken ∧
        (step.raised (loaded before) = [] ↔
          (step.isLoad = true → step.source?.isSome) ∧
            ∀ number, step.number? = some number →
              ∃ schema, schemaOf (loaded before)[number]? = .ok schema ∧
                ∀ spec ∈ schema.containers, step.Accepts schema.common spec) := by
  have hk := knows_after before
  refine ⟨numbers_run _, _, getElem?_run before step later, fun hl => ?_, fun number hn => ?_,
    fun o ho ha => (output_after ho rfl ha).1, fun hb => ?_, ?_, raised_eq_nil_iff⟩
  · rw [← hk.sources]
    exact reply_of_isLoad _ hl
  · obtain ⟨outcome, ho, hsame⟩ := exists_outcome hn (loaded before)
    refine ⟨outcome, ((after before).restarted.concluded outcome).1, ho, fun hlt => ?_, ?_, ?_⟩
    · -- later sources follow the ones that are there
      apply hsame
      rw [loaded_append, List.getElem?_append_left hlt]
    · exact congrArg Prod.fst (step_after ho).1
    · rw [exitCode_eq_zero_iff]
      exact concluded_after_success_iff ho
  · cases ho : step.outcome? (loaded before) with
    | none =>
      -- the step is no command
      obtain ⟨hq, ht⟩ := step_of_no_outcome (s := after before) (by rw [hk.sources, ho])
      exact ⟨ht, Logged.quiet_iff.1 hq⟩
    | some outcome =>
      refine held_back_after ho (hb.imp_left fun hno o he => hno o ?_)
      rw [ho, he]
  · rw [← hk.sources]
    exact (step_effect _ step).diagnostics

/-- A source with an empty schema. -/
def emptySchemaSteps : List Step := [.add "a" "[]"]

theorem run_commands_emptySchemaSteps :
    ∃ record, (run empty (emptySchemaSteps ++ .compile 0 :: [.add "b" "1"])).1[1]? = some record ∧
      ∃ status, record.reply = .ended status ∧ status.exitCode = 0 := by
  obtain ⟨-, record, hrecord, -, hcommand, hout, -⟩ :=
    run_commands emptySchemaSteps (.compile 0) [.add "b" "1"]
  obtain ⟨outcome, status, ho, -, hreply, hstatus⟩ := hcommand 0 rfl
  have hnone : raisedBy (emptySchemaSteps ++ [.compile 0]) = [] := by decide +kernel
  have hok : (outcomeOf modelOf Summary.document (loaded emptySchemaSteps)[0]?).isOk = true := by
    decide +kernel
  have hsome : some (outcomeOf modelOf Summary.document (loaded emptySchemaSteps)[0]?) =
      some outcome := ho
  obtain ⟨o, rfl⟩ := exists_eq_ok_of_isOk (Option.some.inj hsome ▸ hok)
  refine ⟨record, hrecord, status, hreply, hstatus.2 ⟨hnone, o, rfl, ?_⟩⟩
  -- no limit has been set, and nothing is blocked
  have hwrite := Outlet.write_of_unlimited (o := (after emptySchemaSteps).output.restart) rfl
    (textOf (columns emptySchemaSteps) o)
  rw [hout o ho (.inr hnone), Outlet.write_of_none hwrite, join_textOf]
  exact ⟨String.empty_append, rfl⟩

end Session

end TlvSchema
