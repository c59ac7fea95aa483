import TlvSchema.Proofs.Logged
import TlvSchema.Session

/-!
# Commands of a session

What the parts of a command do to a session.

* `Event.isRefusal` — a writer has refused something
* `All` — what all entries of a log have in common; the computations below a session log plain events only
* `write_eq_none_iff` — a writer fails unless it takes all that it is handed and passes it on
* `reported` — a session in which a diagnostic has been reported
* `Yields` — an operation reports the error of a computation or gives its result
* `Outcome` — the diagnostics that a command reports, and its document
* `command_spec` — a command reports its diagnostics and writes its document, and only its end tells of
  output that was not written
* `serious_modelOf`, `serious_listingOf` — all diagnostics that a command reports are about errors
-/

namespace TlvSchema

/-! ### Entries -/

/-- A writer has refused something. -/
def Event.isRefusal : Event → Bool
  | .diagnosticNotWritten _ | .outputNotWritten _ => true
  | _ => false

/-- The entry does not tell of output that was not written. -/
def Entry.IsQuiet (e : Entry) : Prop := ∀ reason, e ≠ .event (.outputNotWritten reason)

/-- The entry is an event, and no refusal. -/
def Entry.IsPlain (e : Entry) : Prop := ∃ event, e = .event event ∧ event.isRefusal = false

namespace Logged

variable {ε α β : Type} {P Q : Entry → Prop}

/-- All entries have a property. -/
def All (P : Entry → Prop) (x : Logged α) : Prop := ∀ e ∈ x.entries, P e

theorem all_pure (a : α) : (pure a : Logged α).All P := fun _ he => absurd he List.not_mem_nil

theorem all_event {e : Event} (h : P (.event e)) : (event e).All P :=
  List.forall_mem_singleton.2 h

theorem all_bind_iff {x : Logged α} {f : α → Logged β} :
    (x >>= f).All P ↔ x.All P ∧ (f x.value).All P :=
  List.forall_mem_append

theorem All.bind {x : Logged α} {f : α → Logged β} (hx : x.All P) (hf : ∀ a, (f a).All P) :
    (x >>= f).All P :=
  all_bind_iff.2 ⟨hx, hf x.value⟩

theorem All.exceptBind {x : ExceptT ε Logged α} {f : α → ExceptT ε Logged β}
    (hx : x.run.All P) (hf : ∀ a, (f a).run.All P) : (x >>= f).run.All P := by
  rw [ExceptT.run_bind]
  refine hx.bind fun r => ?_
  cases r with
  | ok a => exact hf a
  | error e => exact all_pure _

theorem All.lift {x : Logged α} (h : x.All P) : (monadLift x : ExceptT ε Logged α).run.All P := by
  rw [ExceptT.run_monadLift]
  exact h.bind fun _ => all_pure _

theorem All.imp {x : Logged α} (h : x.All P) (hPQ : ∀ e, P e → Q e) : x.All Q :=
  fun e he => hPQ e (h e he)

/-- Only plain events are logged. -/
abbrev Plain (x : Logged α) : Prop := x.All Entry.IsPlain

/-- Nothing tells of output that was not written. -/
abbrev Quiet (x : Logged α) : Prop := x.All Entry.IsQuiet

theorem plain_event {e : Event} (h : e.isRefusal = false) : (event e).Plain := all_event ⟨e, rfl, h⟩

theorem Plain.quiet {x : Logged α} (h : x.Plain) : x.Quiet := by
  refine h.imp ?_
  rintro _ ⟨event, rfl, hevent⟩ reason hreason
  cases hreason
  cases hevent

theorem quiet_iff {x : Logged α} : x.Quiet ↔ ∀ reason, Event.outputNotWritten reason ∉ x.events := by
  simp only [mem_events_iff]
  exact ⟨fun h reason hm => h _ hm reason rfl, fun h e he reason hr => h reason (hr ▸ he)⟩

end Logged

open Logged

/-! ### Outlets -/

namespace Outlet

variable {o : Outlet} {pieces : List String}

/-- No more has been taken than the limit allows. -/
def Fits (o : Outlet) : Prop := ∀ limit ∈ o.limit, o.taken.utf8ByteSize ≤ limit.bytes

theorem fits_restart (o : Outlet) : o.restart.Fits := fun _ _ => Nat.zero_le _

theorem refusal?_eq_none_iff {piece : String} :
    o.refusal? piece = none ↔ ({ o with taken := o.taken ++ piece } : Outlet).Fits := by
  simp only [refusal?, Fits, Option.bind_eq_none_iff, ite_eq_right_iff, reduceCtorEq, imp_false,
    Nat.not_lt, String.utf8ByteSize_append, Option.mem_def]

/-- If writing does not fail, all pieces are taken and passed on. -/
theorem accept_of_none (h : (o.accept pieces).2 = none) :
    (o.accept pieces).1 = pieces ∧ o.flush = none := by
  induction pieces generalizing o with
  | nil => exact ⟨rfl, h⟩
  | cons piece pieces ih =>
    rw [accept] at h ⊢
    cases hp : o.refusal? piece with
    | some reason => simp [hp] at h
    | none =>
      simp only [hp] at h ⊢
      obtain ⟨htaken, hflush⟩ := ih h
      exact ⟨congrArg (piece :: ·) htaken, hflush⟩

/-- If as much is taken as was handed over and it is passed on, then writing has not failed. -/
theorem accept_eq_none (h : o.Fits) (ht : String.join (o.accept pieces).1 = String.join pieces)
    (hf : o.flush = none) : (o.accept pieces).2 = none := by
  induction pieces generalizing o with
  | nil => exact hf
  | cons piece pieces ih =>
    rw [accept] at ht ⊢
    cases hp : o.refusal? piece with
    | none =>
      simp only [hp, String.join_cons, String.append_right_inj] at ht ⊢
      exact ih (refusal?_eq_none_iff.1 hp) ht hf
    | some reason =>
      -- a piece that is refused is not empty, so that less is taken
      simp only [hp, String.join_nil, String.join_cons] at ht
      have hempty : piece = "" := (String.append_eq_empty_iff.1 ht.symm).1
      have hnone : o.refusal? piece = none := by
        rw [refusal?_eq_none_iff, hempty, String.append_empty]
        exact h
      rw [hp] at hnone
      cases hnone

/-- **Writing succeeds** if and only if everything is taken and passed on. -/
theorem write_eq_none_iff (h : o.Fits) :
    (o.write pieces).2 = none ↔
      (o.write pieces).1.taken = o.taken ++ String.join pieces ∧ o.flush = none := by
  constructor
  · intro hn
    obtain ⟨ht, hf⟩ := accept_of_none hn
    exact ⟨congrArg (fun ps => o.taken ++ String.join ps) ht, hf⟩
  · rintro ⟨ht, hf⟩
    exact accept_eq_none h ((String.append_right_inj _).1 ht) hf

theorem write_of_none (h : (o.write pieces).2 = none) :
    (o.write pieces).1 = { o with taken := o.taken ++ String.join pieces } := by
  rw [write, (accept_of_none h).1]

/-- An outlet without a limit that is not blocked takes everything. -/
theorem write_of_unlimited (h : o.restart = .unlimited) (pieces : List String) :
    (o.write pieces).2 = none := by
  have hl : o.limit = none := congrArg Outlet.limit h
  induction pieces generalizing o with
  | nil => exact congrArg Outlet.blocked h
  | cons piece pieces ih =>
    have hp : o.refusal? piece = none := by rw [refusal?, hl, Option.bind_none]
    simp only [write, accept, hp]
    exact @ih { o with taken := o.taken ++ piece } h hl

end Outlet

/-! ### Events of compilations and schemas -/

theorem plain_orderFields (fields : List Field) : (orderFields fields).Plain := by
  refine All.bind (fun entry hentry => ?_) fun _ => all_pure _
  obtain ⟨e, he, rfl⟩ := List.mem_map.1 hentry
  obtain ⟨_, -, he⟩ := List.mem_filterMap.1 he
  obtain ⟨_, -, rfl⟩ := Option.map_eq_some_iff.1 he
  exact ⟨_, rfl, rfl⟩

theorem ContainerSpec.plain_compile (spec : ContainerSpec) (table : CommonTable) :
    (spec.compile table).run.Plain := by
  unfold compile orderedFields
  refine .exceptBind ?_ fun fields => ?_
  · cases spec.fields with
    | none => exact all_pure _
    | some entries =>
      refine .exceptBind (all_pure _) fun fields => ?_
      refine .exceptBind (.lift (plain_event rfl)) fun _ => ?_
      rw [ExceptT.run_map]
      exact .bind (.lift (plain_orderFields fields)) fun _ => all_pure _
  · refine .exceptBind (all_pure _) fun m => ?_
    exact .exceptBind (.lift (plain_event rfl)) fun _ => all_pure _

namespace Schema

theorem plain_addEntry (s : Schema) (entry : Json) : (s.addEntry entry).run.Plain := by
  unfold addEntry
  split
  · unfold addDefinition
    split
    · exact .exceptBind (.lift (plain_event rfl)) fun _ => all_pure _
    · refine .exceptBind (all_pure _) fun field => .exceptBind (all_pure _) fun d => ?_
      dsimp only
      split
      · exact .exceptBind (.lift (plain_event rfl)) fun _ => all_pure _
      · exact all_pure _
  · unfold addMessage
    split
    · refine .exceptBind (all_pure _) fun message => .exceptBind (.lift ?_) fun _ => all_pure _
      unfold MessageEntry.containers
      dsimp only
      split
      · exact all_pure _
      · split
        · exact .bind (plain_event rfl) fun _ => all_pure _
        · exact all_pure _
    · exact .exceptBind (.lift (plain_event rfl)) fun _ => all_pure _

theorem plain_foldlM_addEntry (s : Schema) (entries : List Json) :
    (entries.foldlM addEntry s).run.Plain := by
  induction entries generalizing s with
  | nil => exact all_pure _
  | cons entry entries ih =>
    rw [List.foldlM_cons]
    exact .exceptBind (plain_addEntry s entry) ih

theorem plain_load (text : String) : (load text).run.Plain := by
  unfold load
  split
  · exact plain_foldlM_addEntry _ _
  · exact all_pure _

end Schema

namespace Session

variable {α : Type} {s : Session} {d : Diagnostic}

/-! ### Diagnostics -/

/-- The session in which a diagnostic has been reported. -/
def reported (s : Session) (d : Diagnostic) : Session :=
  { s with
    diagnostics := (s.diagnostics.write d.pieces).1
    seenErrors := s.seenErrors || d.isError }

/-- The session in which several diagnostics have been reported. -/
def reportedAll (s : Session) (ds : List Diagnostic) : Session := ds.foldl reported s

theorem reportedAll_eq (s : Session) (ds : List Diagnostic) :
    s.reportedAll ds =
      { s with
        diagnostics := ds.foldl (fun o d => (o.write d.pieces).1) s.diagnostics
        seenErrors := s.seenErrors || ds.any (·.isError) } := by
  induction ds generalizing s with
  | nil => simp [reportedAll]
  | cons d ds ih =>
    rw [reportedAll, List.foldl_cons, ← reportedAll, ih]
    simp [reported, Bool.or_assoc]

theorem run_report (s : Session) (d : Diagnostic) :
    (report d).run s =
      ⟨((), s.reported d), .written (String.join (s.diagnostics.accept d.pieces).1) ::
        (s.diagnostics.write d.pieces).2.toList.map fun reason =>
          .event (.diagnosticNotWritten reason)⟩ := by
  simp only [report, log, StateT.run_bind, StateT.run_get, StateT.run_set, pure_bind, Outlet.write]
  cases (s.diagnostics.accept d.pieces).2 with
  | none => rfl
  | some reason => rfl

theorem quiet_report (s : Session) (d : Diagnostic) : ((report d).run s).Quiet := by
  rw [run_report]
  intro e he reason hr
  simp [hr] at he

/-! ### Results and reports -/

/-- The result of a computation, and the session in which its error has been reported. -/
def settled (s : Session) : Except Diagnostic α → Option α × Session
  | .ok a => (some a, s)
  | .error d => (none, s.reported d)

/-- The operation gives the result of a computation, or reports its error. -/
def Yields (x : SessionM (Option α)) (r : Except Diagnostic α) : Prop :=
  ∀ s : Session, (x.run s).Quiet ∧ (x.run s).value = s.settled r

theorem yields_ok (a : α) : Yields (pure (some a)) (.ok a) := fun _ => ⟨all_pure _, rfl⟩

theorem yields_error (d : Diagnostic) :
    Yields (do report d; pure none : SessionM (Option α)) (.error d) := by
  intro s
  rw [StateT.run_bind]
  refine ⟨.bind (quiet_report s d) fun _ => all_pure _, ?_⟩
  rw [Logged.value_bind, run_report]
  rfl

/-- Something may be logged before the result is known. -/
theorem yields_bind {β : Type} {x : SessionM β} {f : β → SessionM (Option α)} {b : β}
    {r : Except Diagnostic α} (hx : ∀ s, (x.run s).Quiet ∧ (x.run s).value = (b, s))
    (hf : Yields (f b) r) : Yields (x >>= f) r := by
  intro s
  obtain ⟨hq, hv⟩ := hx s
  obtain ⟨hq', hv'⟩ := hf s
  rw [StateT.run_bind]
  refine ⟨all_bind_iff.2 ⟨hq, ?_⟩, ?_⟩
  · rw [hv]
    exact hq'
  · rw [Logged.value_bind, hv]
    exact hv'

theorem lift_spec {β : Type} {x : Logged β} (hx : x.Quiet) (s : Session) :
    ((monadLift x : SessionM β).run s).Quiet ∧
      ((monadLift x : SessionM β).run s).value = (x.value, s) :=
  ⟨.bind hx fun _ => all_pure _, rfl⟩

/-! ### Schemas -/

/-- The schema of a source, or the diagnostic for what is wrong with it. -/
def schemaOf : Option Source → Except Diagnostic Schema
  | none => .error missingSourceDiagnostic
  | some source => match (Schema.load source.text).run.value with
    | .ok schema => .ok schema
    | .error (.json e) => .error (jsonDiagnostic source e)
    | .error (.schema e) => .error e.diagnostic

theorem loadSchema_spec (number : Nat) (s : Session) :
    ((loadSchema number).run s).Quiet ∧
      ((loadSchema number).run s).value = s.settled (schemaOf s.sources[number]?) := by
  unfold loadSchema
  rw [StateT.run_bind, StateT.run_get, pure_bind]
  dsimp only
  cases hs : s.sources[number]? with
  | none => exact yields_error missingSourceDiagnostic s
  | some source =>
    dsimp only
    refine yields_bind (r := schemaOf (some source))
      (lift_spec (Schema.plain_load source.text).quiet) ?_ s
    unfold schemaOf
    dsimp only
    match (Schema.load source.text).run.value with
    | .ok schema =>
      refine yields_bind (lift_spec (plain_event ?_).quiet) (yields_ok schema)
      rfl
    | .error (.json e) => exact yields_error _
    | .error (.schema e) => exact yields_error _

/-! ### Containers -/

/-- The model of a container, or the diagnostic for its defect. -/
def modelOf (table : CommonTable) (spec : ContainerSpec) : Except Diagnostic Model :=
  (spec.compile table).run.value.mapError SchemaError.diagnostic

theorem yields_compileContainer (table : CommonTable) (spec : ContainerSpec) :
    Yields (compileContainer table spec) (modelOf table spec) := by
  refine yields_bind (lift_spec (spec.plain_compile table).quiet) ?_
  unfold modelOf
  cases (spec.compile table).run.value with
  | ok m => exact yields_ok m
  | error e => exact yields_error e.diagnostic

/-- The listing of a container, or the diagnostic for its defect. -/
def listingOf (table : CommonTable) (spec : ContainerSpec) : Except Diagnostic Doc :=
  match spec.fields with
  | none => .ok (FieldListing.emptyContainer spec.fullName)
  | some entries =>
    ((fun fields => FieldListing.container spec.fullName (declarationOrder fields)) <$>
      resolveFields spec.fullName entries table).mapError SchemaError.diagnostic

theorem yields_listContainer (table : CommonTable) (spec : ContainerSpec) :
    Yields (listContainer table spec) (listingOf table spec) := by
  unfold listContainer listingOf
  cases spec.fields with
  | none => exact yields_ok _
  | some entries =>
    dsimp only
    cases resolveFields spec.fullName entries table with
    | ok fields => exact yields_bind (lift_spec (plain_orderFields fields).quiet) (yields_ok _)
    | error e => exact yields_error e.diagnostic

/-- The error of a computation. -/
def defect? : Except Diagnostic α → Option Diagnostic
  | .ok _ => none
  | .error d => some d

theorem forContainers_spec {f : ContainerSpec → SessionM (Option α)}
    {r : ContainerSpec → Except Diagnostic α} (hf : ∀ spec, Yields (f spec) (r spec))
    (specs : List ContainerSpec) (s : Session) :
    ((forContainers f specs).run s).Quiet ∧
      ((forContainers f specs).run s).value =
        (specs.filterMap fun spec => (r spec).toOption,
          s.reportedAll (specs.filterMap fun spec => defect? (r spec))) := by
  induction specs generalizing s with
  | nil => exact ⟨all_pure _, rfl⟩
  | cons spec specs ih =>
    obtain ⟨hq, hv⟩ := hf spec s
    -- a defect of the first container is reported before the others are worked on
    obtain ⟨hqs, hvs⟩ := ih (s.settled (r spec)).2
    rw [forContainers, StateT.run_bind]
    refine ⟨all_bind_iff.2 ⟨hq, ?_⟩, ?_⟩
    · rw [hv]
      exact all_bind_iff.2 ⟨hqs, all_pure _⟩
    · rw [Logged.value_bind, hv, StateT.run_bind, Logged.value_bind, hvs]
      cases hr : r spec with
      | ok a => simp [settled, hr, Except.toOption, defect?]
      | error d => simp [settled, hr, Except.toOption, defect?, reportedAll]

/-! ### Errors -/

/-- The diagnostic for what is wrong is about an error. -/
def Serious (r : Except Diagnostic α) : Prop := ∀ d, r = .error d → d.isError = true

theorem serious_mapError {r : Except SchemaError α} : Serious (r.mapError SchemaError.diagnostic) := by
  intro d hd
  cases r with
  | ok a => cases hd
  | error e =>
    cases hd
    rfl

theorem serious_schemaOf (source : Option Source) : Serious (schemaOf source) := by
  intro d hd
  unfold schemaOf at hd
  split at hd
  · cases hd
    rfl
  · split at hd <;> cases hd <;> rfl

theorem serious_modelOf (table : CommonTable) (spec : ContainerSpec) : Serious (modelOf table spec) :=
  serious_mapError

theorem serious_listingOf (table : CommonTable) (spec : ContainerSpec) :
    Serious (listingOf table spec) := by
  unfold listingOf
  split
  · exact fun d hd => nomatch hd
  · exact serious_mapError

/-! ### Commands -/

/-- What a command makes of a schema. -/
structure Outcome where
  /-- The diagnostics for the containers with a defect. -/
  reports : List Diagnostic
  /-- The document for the other containers. -/
  document : Doc

/-- The outcome of a command on a schema. -/
def outcomeOfSchema (r : CommonTable → ContainerSpec → Except Diagnostic α)
    (document : List α → Doc) (schema : Schema) : Outcome :=
  ⟨schema.containers.filterMap fun spec => defect? (r schema.common spec),
    document (schema.containers.filterMap fun spec => (r schema.common spec).toOption)⟩

/-- The outcome of a command on a source, or the diagnostic for what is wrong with the source. -/
def outcomeOf (r : CommonTable → ContainerSpec → Except Diagnostic α) (document : List α → Doc)
    (source : Option Source) : Except Diagnostic Outcome :=
  outcomeOfSchema r document <$> schemaOf source

/-- The diagnostics that a command reports. -/
def reportsOf : Except Diagnostic Outcome → List Diagnostic
  | .ok outcome => outcome.reports
  | .error d => [d]

/-- A command reports errors only, if the diagnostics for containers with a defect are about errors. -/
theorem isError_of_mem_reportsOf {r : CommonTable → ContainerSpec → Except Diagnostic α}
    (hr : ∀ table spec, Serious (r table spec)) {document : List α → Doc} {source : Option Source} :
    ∀ d ∈ reportsOf (outcomeOf r document source), d.isError = true := by
  intro d hd
  rw [outcomeOf] at hd
  cases hs : schemaOf source with
  | error d' =>
    rw [hs] at hd
    exact List.mem_singleton.1 hd ▸ serious_schemaOf source d' hs
  | ok schema =>
    rw [hs] at hd
    obtain ⟨spec, -, hspec⟩ := List.mem_filterMap.1 hd
    cases hrs : r schema.common spec with
    | ok a => simp [hrs, defect?] at hspec
    | error d' =>
      rw [hrs] at hspec
      exact Option.some.inj hspec ▸ hr schema.common spec d' hrs

theorem any_isError {ds : List Diagnostic} (h : ∀ d ∈ ds, d.isError = true) :
    ds.any (·.isError) = !ds.isEmpty := by
  cases ds with
  | nil => rfl
  | cons d ds => simp [h d List.mem_cons_self]

/-- The document that is written in the end, if it is not held back. -/
def handed? (s : Session) : Except Diagnostic Outcome → Option Doc
  | .ok outcome => if s.seenErrors && !s.allowErrors then none else some outcome.document
  | .error _ => none

/-- Where output goes after a document has been written, and why it was refused. -/
def written (s : Session) : Option Doc → Outlet × Option String
  | none => (s.output, none)
  | some d => s.output.write (d.pieces s.width ++ ["\n"])

/-- How a command ends, with the reason why its output was refused. -/
def statusOf (s : Session) (refusal : Option String) : Status :=
  if s.seenErrors || refusal.isSome then .failure else .success

theorem run_finish (s : Session) (outcome : Outcome) :
    (finish outcome.document).run s =
      let result := s.written (s.handed? (.ok outcome))
      ⟨(s.statusOf result.2, { s with output := result.1 }),
        result.2.toList.map fun reason => .event (.outputNotWritten reason)⟩ := by
  unfold finish handed?
  rw [StateT.run_bind, StateT.run_get, pure_bind]
  by_cases hb : (s.seenErrors && !s.allowErrors) = true
  · have hst : s.statusOf none = .failure := by
      rw [statusOf, (Bool.and_eq_true_iff.1 hb).1]
      rfl
    simp only [if_pos hb, written, hst]
    rfl
  · -- the document is written, and what is left is whether it was refused
    simp only [if_neg hb, written, statusOf]
    rw [StateT.run_bind, StateT.run_set, pure_bind]
    cases hw : (s.output.write (outcome.document.pieces s.width ++ ["\n"])).2 with
    | none => cases s.seenErrors <;> rfl
    | some reason => simp [log, Logged.ext_iff]

/-- How a command ends that has an outcome: its diagnostics are reported first. -/
def concluded (s : Session) (outcome : Except Diagnostic Outcome) : Status × Session :=
  let s' := s.reportedAll (reportsOf outcome)
  let result := s'.written (s'.handed? outcome)
  (s'.statusOf result.2, { s' with output := result.1 })

/-- Why the output of a command that has an outcome is refused. -/
def refusal? (s : Session) (outcome : Except Diagnostic Outcome) : Option String :=
  let s' := s.reportedAll (reportsOf outcome)
  (s'.written (s'.handed? outcome)).2

theorem concluded_of_error {d : Diagnostic} (s : Session) (hd : d.isError = true) :
    s.concluded (.error d) = (.failure, s.reported d) := by
  have hst : (s.reported d).statusOf none = .failure := by
    have he : (s.reported d).seenErrors = true := by simp [reported, hd]
    rw [statusOf, he]
    rfl
  change ((s.reported d).statusOf none, s.reported d) = _
  rw [hst]

theorem command_spec {f : CommonTable → ContainerSpec → SessionM (Option α)}
    {r : CommonTable → ContainerSpec → Except Diagnostic α}
    (hf : ∀ table spec, Yields (f table spec) (r table spec)) (document : List α → Doc)
    (number : Nat) (s : Session) :
    ((command f document number).run s).value =
        s.concluded (outcomeOf r document s.sources[number]?) ∧
      ∀ reason, Event.outputNotWritten reason ∈ ((command f document number).run s).events →
        s.refusal? (outcomeOf r document s.sources[number]?) = some reason := by
  obtain ⟨hq, hv⟩ := loadSchema_spec number s
  rw [command, StateT.run_bind, Logged.value_bind, Logged.events_bind, hv, outcomeOf]
  cases hs : schemaOf s.sources[number]? with
  | error d =>
    refine ⟨(concluded_of_error s (serious_schemaOf _ d hs)).symm, fun reason hm => ?_⟩
    rcases List.mem_append.1 hm with hm | hm
    · exact absurd hm (quiet_iff.1 hq reason)
    · exact absurd hm List.not_mem_nil
  | ok schema =>
    obtain ⟨hqs, hvs⟩ := forContainers_spec (hf schema.common) schema.containers s
    dsimp only [settled]
    rw [StateT.run_bind, Logged.value_bind, Logged.events_bind, hvs]
    dsimp only
    -- only the end of the command may tell of a refusal
    have hfin := run_finish (s.reportedAll (outcomeOfSchema r document schema).reports)
      (outcomeOfSchema r document schema)
    refine ⟨congrArg Logged.value hfin, fun reason hm => ?_⟩
    rcases List.mem_append.1 hm with hm | hm
    · exact absurd hm (quiet_iff.1 hq reason)
    · rcases List.mem_append.1 hm with hm | hm
      · exact absurd hm (quiet_iff.1 hqs reason)
      · have hm' := mem_events_iff.1 ((congrArg Logged.events hfin) ▸ hm)
        obtain ⟨reason', hr, he⟩ := List.mem_map.1 hm'
        cases he
        exact Option.mem_toList.1 hr

/-! ### Output -/

/-- The pieces that a document is written as. -/
def textOf (width : Option Nat) (outcome : Outcome) : List String :=
  outcome.document.pieces width ++ ["\n"]

theorem join_textOf (width : Option Nat) (outcome : Outcome) :
    String.join (textOf width outcome) = outcome.document.render width ++ "\n" := by
  rw [textOf, String.join_append, Doc.render]
  rfl

theorem seenErrors_reportedAll (s : Session) (ds : List Diagnostic) :
    (s.reportedAll ds).seenErrors = (s.seenErrors || ds.any (·.isError)) := by
  rw [reportedAll_eq]

theorem concluded_success_iff (s : Session) (outcome : Except Diagnostic Outcome) :
    (s.concluded outcome).1 = .success ↔
      (s.seenErrors || (reportsOf outcome).any (·.isError)) = false ∧ s.refusal? outcome = none := by
  have hv : (s.concluded outcome).1 =
      (s.reportedAll (reportsOf outcome)).statusOf (s.refusal? outcome) := rfl
  rw [hv, statusOf, seenErrors_reportedAll]
  cases s.refusal? outcome with
  | none => cases (s.seenErrors || (reportsOf outcome).any (·.isError)) <;> simp
  | some reason => simp

/-- Output is held back if the source has no schema, or because of errors. -/
theorem concluded_of_held_back (s : Session) (outcome : Except Diagnostic Outcome)
    (h : (∀ o, outcome ≠ .ok o) ∨
      s.allowErrors = false ∧ (s.seenErrors || (reportsOf outcome).any (·.isError)) = true) :
    (s.concluded outcome).2.output = s.output ∧ s.refusal? outcome = none := by
  have hh : (s.reportedAll (reportsOf outcome)).handed? outcome = none := by
    cases outcome with
    | error d => rfl
    | ok o =>
      rcases h with h | ⟨ha, he⟩
      · exact absurd rfl (h o)
      · rw [handed?, seenErrors_reportedAll, he, reportedAll_eq]
        simp [ha]
  simp only [concluded, refusal?, hh, written]
  rw [reportedAll_eq]
  exact ⟨rfl, trivial⟩

/-- Otherwise its document is written. -/
theorem concluded_of_ok (s : Session) (o : Outcome)
    (h : s.allowErrors = true ∨ (s.seenErrors || o.reports.any (·.isError)) = false) :
    (s.concluded (.ok o)).2.output = (s.output.write (textOf s.width o)).1 ∧
      s.refusal? (.ok o) = (s.output.write (textOf s.width o)).2 := by
  have hh : (s.reportedAll (reportsOf (.ok o))).handed? (.ok o) = some o.document := by
    rw [handed?, seenErrors_reportedAll, reportedAll_eq, reportsOf]
    refine if_neg fun hb => ?_
    rcases h with h | h
    · simp [h] at hb
    · simp [h] at hb
  simp only [concluded, refusal?, hh, written]
  rw [reportedAll_eq]
  exact ⟨rfl, rfl⟩

end Session

end TlvSchema
