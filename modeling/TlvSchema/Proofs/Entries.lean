import TlvSchema.Proofs.Writers

/-!
# What a session leaves behind on the way

The entries of a step tell in one list what it logs and what it writes for the author of a schema.  The
texts among them are those that the outlet of diagnostics takes, and neither they nor the results depend on
the width of the output.  If all that is written is taken, no refusal is among them.

* `Logged.texts` — the texts among the entries
* `Regular` — an operation notes what it writes to the diagnostics, and no refusals without a reason, and
  the width does not matter for it
* `regular_compile`, `regular_fields` — the commands are regular
* `texts_step`, `texts_run` — the texts of a step and of a run are what is taken of the diagnostics
-/

namespace TlvSchema

variable {α β : Type}

/-! ### Texts -/

namespace Logged

/-- The texts that have been written, one after the other. -/
def texts (x : Logged α) : String := String.join (x.entries.filterMap Entry.text?)

theorem texts_bind (x : Logged α) (f : α → Logged β) :
    (x >>= f).texts = x.texts ++ (f x.value).texts := by
  rw [texts, entries_bind, List.filterMap_append, String.join_append, texts, texts]

theorem texts_of_plain {x : Logged α} (h : x.Plain) : x.texts = "" := by
  have hnone : x.entries.filterMap Entry.text? = [] := by
    rw [List.filterMap_eq_nil_iff]
    intro e he
    obtain ⟨event, rfl, -⟩ := h e he
    rfl
  rw [texts, hnone]
  rfl

theorem isRefusal_of_plain {x : Logged α} (h : x.Plain) : ∀ e ∈ x.events, e.isRefusal = false := by
  intro e he
  obtain ⟨event, hevent, hnone⟩ := h _ (mem_events_iff.1 he)
  exact Entry.event.inj hevent ▸ hnone

end Logged

namespace Session

open Logged

variable {s : Session} {x : SessionM α} {f : α → SessionM β} {d : Diagnostic}

/-! ### Regular operations -/

/-- All that is written is taken and passed on. -/
def Unlimited (s : Session) : Prop :=
  s.output.restart = .unlimited ∧ s.diagnostics.restart = .unlimited

/-- What the operation writes to the diagnostics is among its entries, refusals are not if nothing is
refused, and the width does not matter for what it does. -/
structure Regular (x : SessionM α) : Prop where
  /-- The texts among the entries follow what has been taken before. -/
  texts : ∀ s, (x.run s).value.2.diagnostics.taken = s.diagnostics.taken ++ (x.run s).texts
  /-- The width is only carried along. -/
  width : ∀ s width, x.run { s with width } =
    ⟨((x.run s).value.1, { (x.run s).value.2 with width }), (x.run s).entries⟩
  /-- If all is taken, no refusal is logged, and all is taken later on. -/
  unlimited : ∀ s, s.Unlimited →
    (x.run s).value.2.Unlimited ∧ ∀ e ∈ (x.run s).events, e.isRefusal = false

theorem regular_pure (a : α) : Regular (pure a) where
  texts _ := String.append_empty.symm
  width _ _ := rfl
  unlimited _ hs := ⟨hs, fun _ he => absurd he List.not_mem_nil⟩

theorem Regular.bind (hx : Regular x) (hf : ∀ s, Regular (f (x.run s).value.1)) :
    Regular (x >>= f) where
  texts s := by
    rw [StateT.run_bind, texts_bind, value_bind, (hf s).texts, hx.texts, String.append_assoc]
  width s width := by
    have hlater := (hf s).width (x.run s).value.2 width
    have hvalue := congrArg Logged.value hlater
    have hentries := congrArg Logged.entries hlater
    rw [StateT.run_bind, StateT.run_bind, hx.width]
    exact Logged.ext hvalue (congrArg ((x.run s).entries ++ ·) hentries)
  unlimited s hs := by
    obtain ⟨hs', hfirst⟩ := hx.unlimited s hs
    obtain ⟨hlast, hrest⟩ := (hf s).unlimited _ hs'
    rw [StateT.run_bind, events_bind]
    exact ⟨hlast, List.forall_mem_append.2 ⟨hfirst, hrest⟩⟩

theorem Regular.map (hx : Regular x) (g : α → β) : Regular (g <$> x) := by
  rw [← bind_pure_comp]
  exact hx.bind fun _ => regular_pure _

theorem regular_lift {y : Logged α} (h : y.Plain) : Regular (monadLift y : SessionM α) where
  texts s := by
    have htexts : ((monadLift y : SessionM α).run s).texts = y.texts := by
      change (y >>= fun a => pure (a, s)).texts = y.texts
      rw [texts_bind]
      exact String.append_empty
    rw [htexts, texts_of_plain h]
    exact String.append_empty.symm
  width _ _ := Logged.ext rfl rfl
  unlimited s hs := by
    have hevents : ((monadLift y : SessionM α).run s).events = y.events := by
      change (y >>= fun a => pure (a, s)).events = y.events
      rw [events_bind]
      exact List.append_nil _
    exact ⟨hs, hevents ▸ isRefusal_of_plain h⟩

theorem regular_report (d : Diagnostic) : Regular (report d) where
  texts s := by
    have htexts : ((report d).run s).texts = String.join (s.diagnostics.accept d.pieces).1 := by
      rw [run_report, Logged.texts]
      cases (s.diagnostics.write d.pieces).2 <;>
        simp [List.filterMap_cons, Entry.text?]
    rw [htexts, run_report]
    rfl
  width s width := by
    rw [run_report, run_report]
    rfl
  unlimited s hs := by
    rw [run_report, Outlet.write_of_unlimited hs.2]
    refine ⟨⟨hs.1, (Outlet.restart_write _ _).trans hs.2⟩, fun e he => ?_⟩
    cases he

/-- What is done may depend on all of the session but its width. -/
theorem regular_get {f : Session → SessionM α} (hw : ∀ s width, f { s with width } = f s)
    (hf : ∀ s, Regular (f s)) : Regular (get >>= f) where
  texts s := (hf s).texts s
  width s width := by
    have hrun : ∀ s, (get >>= f).run s = (f s).run s := fun _ => rfl
    rw [hrun, hrun, hw]
    exact (hf s).width s width
  unlimited s := (hf s).unlimited s

theorem regular_error (d : Diagnostic) : Regular (do report d; pure none : SessionM (Option α)) :=
  (regular_report d).bind fun _ => regular_pure none

/-! ### Loading -/

theorem regular_addSource (name text : String) : Regular (addSource name text) where
  texts _ := String.append_empty.symm
  width _ _ := rfl
  unlimited _ hs := ⟨hs, fun _ he => absurd he List.not_mem_nil⟩

theorem regular_readSource (name : String) (content : Except ReadError ByteArray) :
    Regular (readSource name content) := by
  unfold readSource
  cases decodeText content with
  | ok text => exact (regular_addSource name text).map some
  | error e => exact regular_error _

theorem regular_loadSchema (number : ℕ) : Regular (loadSchema number) := by
  unfold loadSchema
  refine regular_get (fun _ _ => rfl) fun s => ?_
  cases s.sources[number]? with
  | none => exact regular_error _
  | some source =>
    refine (regular_lift (Schema.plain_load source.text)).bind fun _ => ?_
    split
    · exact (regular_lift (plain_event rfl)).bind fun _ => regular_pure _
    · exact regular_error _
    · exact regular_error _

/-! ### Containers -/

theorem regular_compileContainer (table : CommonTable) (spec : ContainerSpec) :
    Regular (compileContainer table spec) := by
  refine (regular_lift (spec.plain_compile table)).bind fun _ => ?_
  split
  · exact regular_pure _
  · exact regular_error _

theorem regular_listContainer (table : CommonTable) (spec : ContainerSpec) :
    Regular (listContainer table spec) := by
  unfold listContainer
  cases spec.fields with
  | none => exact regular_pure _
  | some entries =>
    dsimp only
    cases resolveFields spec.fullName entries table with
    | ok fields => exact (regular_lift (plain_orderFields fields)).bind fun _ => regular_pure _
    | error e => exact regular_error _

theorem regular_forContainers {f : ContainerSpec → SessionM (Option α)}
    (hf : ∀ spec, Regular (f spec)) (specs : List ContainerSpec) :
    Regular (forContainers f specs) := by
  induction specs with
  | nil => exact regular_pure _
  | cons spec specs ih => exact (hf spec).bind fun _ => ih.bind fun _ => regular_pure _

/-! ### Commands -/

theorem written_of_rigid {o : Outcome} (h : o.document.Rigid) (s : Session) (width : Option ℕ) :
    ({ s with width } : Session).written (({ s with width } : Session).handed? (.ok o)) =
      s.written (s.handed? (.ok o)) := by
  simp only [handed?]
  split
  · rfl
  · simp only [written, Doc.pieces_of_rigid h]

/-- The end of a command is regular if its document has no groups. -/
theorem regular_finish {d : Doc} (h : d.Rigid) : Regular (finish d) where
  texts s := by
    have htexts : ((finish d).run s).texts = "" := by
      rw [Logged.texts, run_finish s ⟨[], d⟩, List.filterMap_eq_nil_iff.2]
      · rfl
      · intro e he
        obtain ⟨reason, -, rfl⟩ := List.mem_map.1 he
        rfl
    rw [htexts, run_finish s ⟨[], d⟩]
    exact String.append_empty.symm
  width s width := by
    rw [run_finish s ⟨[], d⟩, run_finish { s with width } ⟨[], d⟩, written_of_rigid h]
    rfl
  unlimited s hs := by
    have hnone : (s.written (s.handed? (.ok ⟨[], d⟩))).2 = none := by
      cases s.handed? (.ok ⟨[], d⟩) with
      | none => rfl
      | some pieces => exact Outlet.write_of_unlimited hs.1 _
    have hrun := run_finish s ⟨[], d⟩
    dsimp only at hrun
    rw [hnone] at hrun
    rw [hrun]
    refine ⟨⟨(restart_written s _).trans hs.1, hs.2⟩, fun e he => ?_⟩
    cases he

theorem regular_command {f : CommonTable → ContainerSpec → SessionM (Option α)}
    (hf : ∀ table spec, Regular (f table spec)) {document : List α → Doc}
    (hd : ∀ table specs s, (document ((forContainers (f table) specs).run s).value.1).Rigid)
    (number : ℕ) : Regular (command f document number) := by
  refine (regular_loadSchema number).bind fun _ => ?_
  split
  · exact regular_pure _
  · exact (regular_forContainers (hf _) _).bind fun s => regular_finish (hd _ _ s)

theorem regular_compile (number : ℕ) : Regular (compile number) :=
  regular_command regular_compileContainer (fun _ _ _ => Summary.rigid_document _) number

theorem regular_fields (number : ℕ) : Regular (fields number) := by
  refine regular_command regular_listContainer (fun table specs s => ?_) number
  rw [(forContainers_spec (yields_listContainer table) specs s).2]
  exact FieldListing.rigid_document rigid_of_mem_listings

/-! ### Steps and runs -/

/-- **The texts among the entries of a step are what is taken of the diagnostics.** -/
theorem texts_step (s : Session) (step : Step) :
    (s.recordOf step).diagnostics.taken = (s.step step).texts := by
  have hregular : ∀ {x : SessionM Reply}, Regular x → perform step = x →
      (s.recordOf step).diagnostics.taken = (s.step step).texts := by
    rintro _ hx rfl
    exact (hx.texts s.restarted).trans String.empty_append
  cases step with
  | read name content =>
    exact hregular ((regular_readSource name content).bind fun _ => regular_pure _) rfl
  | compile number => exact hregular ((regular_compile number).bind fun _ => regular_pure _) rfl
  | fields number => exact hregular ((regular_fields number).bind fun _ => regular_pure _) rfl
  | _ => rfl

theorem texts_run (s : Session) (steps : List Step) :
    String.join (((run s steps).1.flatMap (·.entries)).filterMap Entry.text?) =
      String.join ((run s steps).1.map (·.diagnostics.taken)) := by
  induction steps generalizing s with
  | nil => rfl
  | cons step steps ih =>
    rw [run_cons, List.flatMap_cons, List.filterMap_append, String.join_append, ih, List.map_cons,
      String.join_cons, texts_step]
    rfl

end Session

end TlvSchema
