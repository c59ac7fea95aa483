import TlvSchema.Proofs.Compilation
import TlvSchema.Proofs.Writers

/-!
# Listings and summaries of one source

The two commands go through the containers of a schema independently of each other.  Listing stops at
the resolved fields, which compiling turns into a model.  So a defect that a listing reports is reported
by a compilation as well, and what a listing shows of a container can be read off its model.

* `FieldListing.partOf` — what a listing shows of a container, by its model
* `Session.render_listingOf` — a container that compiles is listed as its model says
* `Session.modelOf_of_listingOf` — a container that cannot be listed cannot be compiled
* `Session.commands_agree` — both commands on one source
-/

namespace TlvSchema

/-! ### Containers in a listing -/

namespace FieldListing

/-- The line for a field with a name, a tag and perhaps a prerequisite. -/
def line (name : String) (tag : WireTag) (prerequisite : Option String) : String :=
  name ++ " = " ++ tag.display ++ prerequisite.elim "" (" after " ++ ·)

/-- What a listing shows of the container of a model. -/
def partOf (m : Model) : String :=
  if m.hasFields then
    m.fullName ++ ":\n    " ++
      String.intercalate "\n    " (m.fields.map fun g => line g.name g.tag g.prerequisite)
  else m.fullName ++ ": no fields"

theorem plain_container (fullName : String) (fields : List Field) :
    (container fullName fields).plain 0 =
      fullName ++ ":\n    " ++
        String.intercalate "\n    " (fields.map fun f => line f.name f.tag f.prerequisite) := by
  have hlines : (fields.map fun f => Doc.text (fieldLine f)).map (Doc.plain indentation) =
      fields.map fun f => line f.name f.tag f.prerequisite := by
    rw [List.map_map]
    rfl
  have hbreak : Doc.lineBreak indentation = "\n    " := by decide
  have hnest : (Doc.nest indentation (.hardLine ++ .separate .hardLine
      (fields.map fun f => .text (fieldLine f)))).plain 0 =
      Doc.lineBreak indentation ++ (Doc.separate .hardLine
        (fields.map fun f => .text (fieldLine f))).plain indentation := by
    rw [Doc.plain, Nat.zero_add]
    rfl
  have hcolon : ":\n    " = ":" ++ "\n    " := by decide
  rw [container, Doc.plain_append, hnest, Doc.plain_separate, hlines, Doc.plain, Doc.plain, hbreak,
    hcolon]
  simp only [String.append_assoc]

/-- The lines of the containers follow each other. -/
theorem render_document {containers : List Doc} (h : ∀ d ∈ containers, d.Rigid) (width : Option ℕ) :
    (document containers).render width =
      String.intercalate "\n" (containers.map (Doc.render width)) := by
  have hparts : containers.map (Doc.render width) = containers.map (Doc.plain 0) :=
    List.map_congr_left fun d hd => Doc.render_of_rigid (h d hd) width
  rw [Doc.render_of_rigid (rigid_document h), document, Doc.plain_separate, hparts]
  rfl

end FieldListing

/-! ### Containers in both commands -/

namespace Session

variable {s : Session} {step : Step} {outcome : Except Diagnostic Outcome} {table : CommonTable}
  {spec : ContainerSpec} {m : Model} {d : Diagnostic}

/-- **A container that compiles is listed as its model says.** -/
theorem render_listingOf (h : (spec.compile table).run.value = .ok m) (width : Option ℕ) :
    ∃ d, listingOf table spec = .ok d ∧ d.render width = FieldListing.partOf m := by
  cases hf : spec.fields with
  | none =>
    rw [ContainerSpec.run_compile_of_none hf] at h
    cases h
    refine ⟨FieldListing.emptyContainer spec.fullName, by rw [listingOf, hf], ?_⟩
    exact Doc.render_of_rigid (FieldListing.rigid_emptyContainer _) width
  | some entries =>
    obtain ⟨hc, hcons, hb⟩ := (ContainerSpec.compile_eq_ok_iff hf).1 h
    have hr : resolveFields spec.fullName entries table = .ok (fieldsOf table entries) :=
      resolveFields_eq_ok_iff.2 ⟨hc, rfl, hcons⟩
    obtain ⟨gs, hg, -, rfl⟩ := Model.build_eq_ok_iff.1 hb
    refine ⟨FieldListing.container spec.fullName (declarationOrder (fieldsOf table entries)), ?_, ?_⟩
    · rw [listingOf, hf]
      dsimp only
      rw [hr]
      rfl
    · have hlines : (gs.map fun g => FieldListing.line g.name g.tag g.prerequisite) =
          (declarationOrder (fieldsOf table entries)).map fun f =>
            FieldListing.line f.name f.tag f.prerequisite :=
        Model.map_eq_map (fun _ _ => rfl) hg
      rw [Doc.render_of_rigid (FieldListing.rigid_container _ _), FieldListing.plain_container,
        ← hlines]
      rfl

/-- **A container that cannot be listed cannot be compiled**, for the same reason. -/
theorem modelOf_of_listingOf (h : listingOf table spec = .error d) :
    modelOf table spec = .error d := by
  rw [listingOf] at h
  cases hf : spec.fields with
  | none => simp [hf] at h
  | some entries =>
    rw [modelOf, ContainerSpec.run_compile_of_some hf]
    simp only [hf] at h
    cases hr : resolveFields spec.fullName entries table with
    | ok fields => simp [hr, Functor.map, Except.map, Except.mapError] at h
    | error e => simpa [hr, Functor.map, Except.map, Except.mapError] using h

/-! ### Writers that refuse nothing -/

/-- If nothing is refused, the diagnostics of a step are written one after the other. -/
theorem diagnostics_of_unlimited (h : s.diagnostics.restart = .unlimited) (step : Step) :
    (s.recordOf step).diagnostics.taken =
      String.join ((step.raised s.sources).map Diagnostic.render) := by
  have hfold : ∀ (ds : List Diagnostic) (o : Outlet), o.restart = .unlimited →
      (ds.foldl (fun o d => (o.write d.pieces).1) o).taken =
        o.taken ++ String.join (ds.map Diagnostic.render) := by
    intro ds
    induction ds with
    | nil => exact fun o _ => String.append_empty.symm
    | cons d ds ih =>
      intro o ho
      have hwrite := Outlet.write_of_none (Outlet.write_of_unlimited ho d.pieces)
      rw [List.foldl_cons, ih _ ((Outlet.restart_write o d.pieces).trans ho), hwrite, List.map_cons,
        String.join_cons, String.append_assoc]
      rfl
  rw [recordOf, (step_effect s step).diagnostics, hfold _ s.diagnostics.restart h]
  exact String.empty_append

/-- A command ends with success if and only if there has been no error. -/
theorem success_iff_of_unlimited (ho : s.output.restart = .unlimited)
    (h : step.outcome? s.sources = some outcome) :
    (s.recordOf step).reply = .ended .success ↔
      s.seenErrors = false ∧ reportsOf outcome = [] := by
  have hrefusal : s.restarted.refusal? outcome = none := by
    rw [refusal?, reportedAll_eq]
    cases handed? _ outcome with
    | none => rfl
    | some d => exact Outlet.write_of_unlimited (o := s.output.restart) ho _
  rw [recordOf, (step_of_outcome h).1, Reply.ended.injEq, concluded_success_iff, hrefusal,
    and_iff_left rfl, any_isError_of_outcome h, Bool.or_eq_false_iff, Bool.not_eq_false',
    List.isEmpty_iff]
  rfl

/-- The document of a command is written as a whole, unless errors hold it back. -/
theorem output_of_unlimited (ho : s.output.restart = .unlimited) {o : Outcome}
    (h : step.outcome? s.sources = some (.ok o))
    (hf : s.allowErrors = true ∨ s.seenErrors = false ∧ o.reports = []) :
    (s.recordOf step).output.taken = o.document.render s.width ++ "\n" := by
  rw [(output_of_free h hf).1,
    Outlet.write_of_none (Outlet.write_of_unlimited (o := s.output.restart) ho _), join_textOf]
  exact String.empty_append

/-- A command on a source without a schema reports what is wrong and writes nothing. -/
theorem recordOf_of_error (hd : s.diagnostics.restart = .unlimited)
    (h : step.outcome? s.sources = some (.error d)) :
    (s.recordOf step).reply = .ended .failure ∧ (s.recordOf step).diagnostics.taken = d.render ∧
      (s.recordOf step).output.taken = "" := by
  have hheld := concluded_of_held_back s.restarted (.error d) (.inl fun o ho => nomatch ho)
  refine ⟨?_, ?_, ?_⟩
  · have hne : (s.restarted.concluded (.error d)).1 ≠ .success := by
      rw [Ne, concluded_success_iff, any_isError_of_outcome h]
      simp [reportsOf]
    rw [recordOf, (step_of_outcome h).1]
    cases hst : (s.restarted.concluded (.error d)).1 with
    | success => exact absurd hst hne
    | failure => rfl
  · rw [diagnostics_of_unlimited hd, raised_of_outcome h, reportsOf, List.map_singleton,
      String.join_cons]
    exact String.append_empty
  · rw [recordOf, (step_of_outcome h).1]
    exact congrArg Outlet.taken hheld.1

/-! ### Two commands on one source -/

theorem filterMap_sublist_filterMap {α β : Type} {f g : α → Option β}
    (h : ∀ a b, f a = some b → g a = some b) (l : List α) :
    (l.filterMap f).Sublist (l.filterMap g) := by
  induction l with
  | nil => exact .slnil
  | cons a l ih =>
    cases hf : f a with
    | none =>
      rw [List.filterMap_cons_none hf]
      cases hg : g a with
      | none => rwa [List.filterMap_cons_none hg]
      | some b =>
        rw [List.filterMap_cons_some hg]
        exact ih.cons b
    | some b =>
      rw [List.filterMap_cons_some hf, List.filterMap_cons_some (h a b hf)]
      exact ih.cons_cons b

theorem schemaOf_eq_ok_iff (source : Source) {schema : Schema} :
    schemaOf (some source) = .ok schema ↔ (Schema.load source.text).run.value = .ok schema := by
  rw [schemaOf]
  cases (Schema.load source.text).run.value with
  | ok schema => simp
  | error e => cases e <;> simp

theorem defect?_eq_some_iff {α : Type} {r : Except Diagnostic α} :
    defect? r = some d ↔ r = .error d := by
  cases r <;> simp [defect?]

/-- What a compilation does not report, a listing does not report either. -/
theorem reports_sublist (schema : Schema) :
    (outcomeOfSchema listingOf FieldListing.document schema).reports.Sublist
      (outcomeOfSchema modelOf Summary.document schema).reports := by
  refine filterMap_sublist_filterMap (fun spec d hd => ?_) _
  exact defect?_eq_some_iff.2 (modelOf_of_listingOf (defect?_eq_some_iff.1 hd))

theorem render_listings (schema : Schema) (width : Option ℕ) :
    (outcomeOfSchema listingOf FieldListing.document schema).document.render width =
      String.intercalate "\n" (schema.containers.filterMap fun spec =>
        (listingOf schema.common spec).toOption.map (Doc.render width)) := by
  rw [outcomeOfSchema, FieldListing.render_document rigid_of_mem_listings, List.map_filterMap]

section

variable {number : ℕ} {schema : Schema} (hs : schemaOf s.sources[number]? = .ok schema)

include hs

/-- Unless errors hold it back, the listing has the containers that can be listed. -/
theorem output_fields (ho : s.output.restart = .unlimited)
    (hf : s.allowErrors = true ∨ s.seenErrors = false ∧
      (outcomeOfSchema listingOf FieldListing.document schema).reports = []) :
    (s.recordOf (.fields number)).output.taken =
      String.intercalate "\n" (schema.containers.filterMap fun spec =>
        (listingOf schema.common spec).toOption.map (Doc.render s.width)) ++ "\n" := by
  rw [output_of_unlimited ho (outcome_fields hs) hf, render_listings]

/-- What allows a summary to be written allows the listing, since there are no more errors in it. -/
theorem free_of_output_compile (h : (s.recordOf (.compile number)).output.taken ≠ "") :
    s.allowErrors = true ∨ s.seenErrors = false ∧
      (outcomeOfSchema listingOf FieldListing.document schema).reports = [] := by
  by_contra hheld
  obtain ⟨hallow, herrors⟩ := not_or.1 hheld
  refine h (output_of_errors (outcome_compile hs) (Bool.eq_false_iff.2 hallow) ?_)
  by_contra hnone
  obtain ⟨hseen, hreports⟩ := not_or.1 hnone
  refine herrors ⟨Bool.eq_false_iff.2 hseen, List.sublist_nil.1 ?_⟩
  exact Classical.not_not.1 hreports ▸ reports_sublist schema

theorem success_fields_of_success_compile (ho : s.output.restart = .unlimited)
    (h : (s.recordOf (.compile number)).reply = .ended .success) :
    (s.recordOf (.fields number)).reply = .ended .success := by
  obtain ⟨hseen, hnone⟩ := (success_iff_of_unlimited ho (outcome_compile hs)).1 h
  exact (success_iff_of_unlimited ho (outcome_fields hs)).2
    ⟨hseen, List.sublist_nil.1 (hnone ▸ reports_sublist schema)⟩

end

/-- **The two commands agree on a source.**  In new sessions with the same settings either both report
the same diagnostic because the source is no schema, or both go through its containers.  A container
whose entries do not resolve is reported by both in the same way, and the listing reports no others.  A
container that compiles is listed with the names, tags and prerequisites of the fields of its model, in
their order.  A summary is never written without the listing, and if the compilation ends with success,
so does the listing. -/
theorem commands_agree (name text : String) (allow : Bool) (width : Option ℕ) :
    let s := after [.add name text, .allowErrors allow, .width width]
    let listed := s.recordOf (.fields 0)
    let compiled := s.recordOf (.compile 0)
    ((∃ (e : LoadError) (d : Diagnostic), (Schema.load text).run.value = .error e ∧
        ∀ record ∈ [listed, compiled], record.reply = .ended .failure ∧
          record.diagnostics.taken = d.render ∧ record.output.taken = "") ∨
      ∃ schema, (Schema.load text).run.value = .ok schema ∧
        let unlisted := schema.containers.filterMap fun spec =>
          defect? (listingOf schema.common spec)
        let uncompiled := schema.containers.filterMap fun spec =>
          defect? (modelOf schema.common spec)
        let part := fun spec => (listingOf schema.common spec).toOption.map (Doc.render width)
        let listing := String.intercalate "\n" (schema.containers.filterMap part) ++ "\n"
        listed.diagnostics.taken = String.join (unlisted.map Diagnostic.render) ∧
        compiled.diagnostics.taken = String.join (uncompiled.map Diagnostic.render) ∧
        (∀ spec entries e, spec.fields = some entries →
          resolveFields spec.fullName entries schema.common = .error e →
            defect? (listingOf schema.common spec) = some e.diagnostic ∧
              (spec.compile schema.common).run.value = .error e) ∧
        (∀ spec d, defect? (listingOf schema.common spec) = some d →
          defect? (modelOf schema.common spec) = some d) ∧
        (∀ spec m, (spec.compile schema.common).run.value = .ok m →
          part spec = some (FieldListing.partOf m)) ∧
        (allow = true ∨ unlisted = [] → listed.output.taken = listing) ∧
        (compiled.output.taken ≠ "" → listed.output.taken = listing)) ∧
    ((∃ status, compiled.reply = .ended status ∧ status.exitCode = 0) →
      ∃ status, listed.reply = .ended status ∧ status.exitCode = 0) := by
  intro s listed compiled
  obtain ⟨hsources, hallow, hwidth, hseen, ho, hd⟩ : s.sources = [⟨name, text⟩] ∧
      s.allowErrors = allow ∧ s.width = width ∧ s.seenErrors = false ∧ s.output.restart = .unlimited ∧
      s.diagnostics.restart = .unlimited := ⟨rfl, rfl, rfl, rfl, rfl, rfl⟩
  clear_value s
  have hsource : s.sources[0]? = some ⟨name, text⟩ := by rw [hsources]; rfl
  cases hs : schemaOf s.sources[0]? with
  | error d =>
    have hrecord : ∀ step ∈ [Step.fields 0, .compile 0],
        (s.recordOf step).reply = .ended .failure ∧
          (s.recordOf step).diagnostics.taken = d.render ∧ (s.recordOf step).output.taken = "" := by
      intro step hstep
      refine recordOf_of_error hd ?_
      rcases List.mem_pair.1 hstep with rfl | rfl
      all_goals
        rw [Step.outcome?, outcomeOf, hs]
        rfl
    refine ⟨.inl ?_, ?_⟩
    · cases hl : (Schema.load text).run.value with
      | ok schema =>
        rw [hsource, (schemaOf_eq_ok_iff ⟨name, text⟩).2 hl] at hs
        cases hs
      | error e =>
        refine ⟨e, d, rfl, fun record hmem => ?_⟩
        rcases List.mem_pair.1 hmem with rfl | rfl
        · exact hrecord (.fields 0) (List.mem_pair.2 (.inl rfl))
        · exact hrecord (.compile 0) (List.mem_pair.2 (.inr rfl))
    · rintro ⟨status, hreply, hcode⟩
      rw [(hrecord (.compile 0) (List.mem_pair.2 (.inr rfl))).1] at hreply
      cases hreply
      cases hcode
  | ok schema =>
    have hload : (Schema.load text).run.value = .ok schema := by
      rw [hsource] at hs
      exact (schemaOf_eq_ok_iff ⟨name, text⟩).1 hs
    have hlisting := output_fields hs ho
    rw [hwidth, hallow] at hlisting
    refine ⟨.inr ⟨schema, hload, ?_, ?_, ?_, ?_, ?_, ?_, ?_⟩, ?_⟩
    · rw [diagnostics_of_unlimited hd, raised_of_outcome (outcome_fields hs)]
      rfl
    · rw [diagnostics_of_unlimited hd, raised_of_outcome (outcome_compile hs)]
      rfl
    · intro spec entries e hf hr
      refine ⟨defect?_eq_some_iff.2 ?_, ?_⟩
      · rw [listingOf, hf]
        dsimp only
        rw [hr]
        rfl
      · rw [ContainerSpec.run_compile_of_some hf, hr]
    · intro spec d hd
      exact defect?_eq_some_iff.2 (modelOf_of_listingOf (defect?_eq_some_iff.1 hd))
    · intro spec m hm
      obtain ⟨d, hd, hrender⟩ := render_listingOf hm width
      dsimp only
      rw [hd]
      exact congrArg some hrender
    · intro hf
      exact hlisting (hf.imp_right fun hnone => ⟨hseen, hnone⟩)
    · intro hne
      exact hlisting (hallow ▸ free_of_output_compile hs hne)
    · rintro ⟨status, hreply, hcode⟩
      obtain rfl := exitCode_eq_zero_iff.1 hcode
      exact ⟨.success, success_fields_of_success_compile hs ho hreply, rfl⟩

end Session

end TlvSchema
