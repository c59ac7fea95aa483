import TlvSchema.Proofs.Diagnostic
import TlvSchema.Proofs.Refusals
import TlvSchema.Proofs.Summary

/-!
# Containers are compiled one by one

When the containers of a schema are compiled, none of them matters for the others.  A container with a
defect is reported as it would be if it were the only one, and the summary is put together from the
summaries of the containers without a defect.

* `compileSchema` — what a command does once the schema has been loaded (`compile_eq`)
* `reportAlone` — what is reported if a container is the only one
* `compile_independent` — the reports and the summary of several containers
-/

namespace TlvSchema

namespace Session

variable {s : Session} {number : ℕ} {source : Source} {schema : Schema} {table : CommonTable}
  {spec : ContainerSpec}

/-! ### One container -/

/-- Compile the containers of a schema. -/
def compileSchema (schema : Schema) : SessionM Status := do
  let models ← forContainers (compileContainer schema.common) schema.containers
  finish (Summary.document models)

/-- A command loads the schema and then compiles its containers. -/
theorem compile_eq (number : ℕ) :
    compile number =
      loadSchema number >>= fun schema => schema.elim (pure .failure) compileSchema := by
  rw [compile, command]
  refine bind_congr fun schema => ?_
  cases schema <;> rfl

/-- What is reported if a container is the only one. -/
def reportAlone (table : CommonTable) (spec : ContainerSpec) : String :=
  ((compileSchema ⟨table, [spec]⟩).run empty).value.2.diagnostics.taken

/-- Writing output does not touch the diagnostics. -/
theorem diagnostics_finish (d : Doc) (s : Session) :
    ((finish d).run s).value.2.diagnostics = s.diagnostics := by
  have h := run_finish s ⟨[], d⟩
  rw [show (finish d).run s = _ from h]

theorem reportAlone_of_error {e : SchemaError} (h : (spec.compile table).run.value = .error e) :
    reportAlone table spec = e.diagnostic.render := by
  have hv := (forContainers_spec (yields_compileContainer table) [spec] empty).2
  have htaken : (Outlet.unlimited.write e.diagnostic.pieces).1.taken = e.diagnostic.render := by
    rw [Outlet.write_of_none (Outlet.write_of_unlimited rfl e.diagnostic.pieces)]
    exact String.empty_append
  have hm : modelOf table spec = .error e.diagnostic := by
    rw [modelOf, h]
    rfl
  rw [reportAlone, compileSchema, StateT.run_bind, Logged.value_bind, diagnostics_finish, hv]
  simp only [List.filterMap_cons, List.filterMap_nil, hm, defect?]
  exact htaken

/-- The report on a defect has the message of the defect and its notes. -/
theorem render_diagnostic (e : SchemaError) :
    e.diagnostic.render =
      "error: " ++ e.message ++ "\n" ++ String.join (e.notes.map (Diagnostic.noteText 0)) ++ "\n" :=
  Diagnostic.render_of_no_label rfl

/-! ### Several containers -/

theorem toOption_modelOf (table : CommonTable) (spec : ContainerSpec) :
    (modelOf table spec).toOption = (spec.compile table).run.value.toOption := by
  rw [modelOf]
  cases (spec.compile table).run.value <;> rfl

/-- The document of a compilation is the summary of the models that there are. -/
theorem document_outcomeOfSchema (schema : Schema) :
    (outcomeOfSchema modelOf Summary.document schema).document =
      Summary.document (schema.containers.filterMap fun spec =>
        (spec.compile schema.common).run.value.toOption) := by
  simp only [outcomeOfSchema, toOption_modelOf]

/-- The containers with a defect are those of which something is reported. -/
theorem map_render_defects (table : CommonTable) (specs : List ContainerSpec) :
    (specs.filterMap fun spec => defect? (modelOf table spec)).map Diagnostic.render =
      (specs.filter fun spec => !(spec.compile table).run.value.isOk).map (reportAlone table) := by
  induction specs with
  | nil => rfl
  | cons spec specs ih =>
    rw [List.filterMap_cons, List.filter_cons, modelOf]
    cases hr : (spec.compile table).run.value with
    | ok m => exact ih
    | error e =>
      rw [if_pos (show (!(Except.error e : Except SchemaError Model).isOk) = true from rfl),
        List.map_cons, reportAlone_of_error hr, ← ih]
      rfl

/-- **Containers are compiled one by one.**  If nothing is refused, the report of a command is made of
those on the single containers with a defect, in order, each of which tells what is wrong, and its summary
of those of the single models, in order. -/
theorem compile_independent (hsource : s.sources[number]? = some source)
    (hload : (Schema.load source.text).run.value = .ok schema)
    (hwritten : ∀ e ∈ (s.step (.compile number)).events, e.isRefusal = false) :
    let result := fun spec : ContainerSpec => (spec.compile schema.common).run.value
    let failing := schema.containers.filter fun spec => !(result spec).isOk
    let models := schema.containers.filterMap fun spec => (result spec).toOption
    let record := s.recordOf (.compile number)
    record.diagnostics.taken = String.join (failing.map (reportAlone schema.common)) ∧
      (∀ spec e, result spec = .error e →
        reportAlone schema.common spec = e.diagnostic.render ∧
          e.diagnostic.render = "error: " ++ e.message ++ "\n" ++
            String.join (e.notes.map (Diagnostic.noteText 0)) ++ "\n") ∧
      ((s.seenErrors = true ∨ failing ≠ []) ∧ s.allowErrors = false → record.output.taken = "") ∧
      ((s.seenErrors = false ∧ failing = []) ∨ s.allowErrors = true →
        record.output.taken = (Summary.document models).render s.width ++ "\n") ∧
      (Summary.document models).render s.width =
        String.intercalate "\n\n" (models.map fun m => (Summary.document [m]).render none) := by
  intro result failing models record
  let o := outcomeOfSchema modelOf Summary.document schema
  have hschema : schemaOf s.sources[number]? = .ok schema := by rw [hsource, schemaOf, hload]
  have houtcome : Step.outcome? s.sources (.compile number) = some (.ok o) :=
    outcome_compile hschema
  have hreports : o.reports.map Diagnostic.render = failing.map (reportAlone schema.common) :=
    map_render_defects schema.common schema.containers
  have hclean : o.reports = [] ↔ failing = [] := by
    rw [← List.map_eq_nil_iff (f := Diagnostic.render), hreports, List.map_eq_nil_iff]
  have hdocument : o.document = Summary.document models := document_outcomeOfSchema schema
  refine ⟨?_, ?_, ?_, ?_, Summary.render_document models s.width none⟩
  · rw [← hreports]
    exact diagnostics_of_unrefused hschema hwritten
  · intro spec e he
    exact ⟨reportAlone_of_error he, render_diagnostic e⟩
  · rintro ⟨herrors, hallow⟩
    exact output_of_errors houtcome hallow (herrors.imp_right (mt hclean.1))
  · intro hfree
    rw [← hdocument]
    refine output_of_unrefused houtcome hwritten (hfree.symm.imp_right ?_)
    exact And.imp_right hclean.2

/-- A message whose output has a field without a name. -/
def namelessSource : Source :=
  ⟨"a", "[\x7b\"type\":\"Message\",\"name\":\"A\",\"output\":[\x7b\"id\":\"1\"\x7d]\x7d]"⟩

/-- A session with that message, in which errors are allowed. -/
def namelessSession : Session := { empty with sources := [namelessSource], allowErrors := true }

theorem compile_independent_namelessSession :
    ∃ table spec e m, (spec.compile table).run.value = .error e ∧
      (namelessSession.recordOf (.compile 0)).diagnostics.taken = reportAlone table spec ∧
      reportAlone table spec =
        "error: " ++ e.message ++ "\n" ++ String.join (e.notes.map (Diagnostic.noteText 0)) ++ "\n" ∧
      reportAlone table spec =
        "error: field `#1` is missing the `name` attribute\n = in container `Message A Output`\n\n" ∧
      (namelessSession.recordOf (.compile 0)).output.taken =
        (Summary.document [m]).render none ++ "\n" := by
  obtain ⟨schema, hload⟩ : ∃ schema, (Schema.load namelessSource.text).run.value = .ok schema :=
    exists_eq_ok_of_isOk (by decide +kernel)
  have hwritten : ((namelessSession.step (.compile 0)).events.all fun e => e.isRefusal = false) =
      true := by decide +kernel
  obtain ⟨hreports, htext, -, houtput, -⟩ :=
    @compile_independent namelessSession 0 namelessSource schema rfl hload (by simpa using hwritten)
  -- one container has a defect, and the other one has a model
  have hcounts : ((Schema.load namelessSource.text).run.value.toOption.map fun schema =>
      ((schema.containers.filter fun spec => !(spec.compile schema.common).run.value.isOk).length,
        (schema.containers.filterMap fun spec =>
          (spec.compile schema.common).run.value.toOption).length)) = some (1, 1) := by
    decide +kernel
  rw [hload] at hcounts
  obtain ⟨hfailing, hmodels⟩ := Prod.mk.inj (Option.some.inj hcounts)
  obtain ⟨spec, hspec⟩ := List.length_eq_one_iff.1 hfailing
  obtain ⟨m, hm⟩ := List.length_eq_one_iff.1 hmodels
  have hmem : spec ∈ schema.containers.filter fun spec =>
      !(spec.compile schema.common).run.value.isOk := hspec ▸ List.mem_singleton_self spec
  obtain ⟨e, he⟩ : ∃ e, (spec.compile schema.common).run.value = .error e := by
    have hdefect := (List.mem_filter.1 hmem).2
    cases hr : (spec.compile schema.common).run.value with
    | ok m => simp [hr, Except.isOk, Except.toBool] at hdefect
    | error e => exact ⟨e, rfl⟩
  obtain ⟨halone, hrender⟩ := htext spec e he
  have htaken : (namelessSession.recordOf (.compile 0)).diagnostics.taken =
      reportAlone schema.common spec := by
    rw [hreports, hspec, List.map_singleton, String.join_cons]
    exact String.append_empty
  refine ⟨schema.common, spec, e, m, he, htaken, halone.trans hrender, ?_, ?_⟩
  · rw [← htaken]
    decide +kernel
  · rw [houtput (.inr rfl), hm]
    rfl

end Session

end TlvSchema
