import TlvSchema.FieldListing
import TlvSchema.Proofs.Emission
import TlvSchema.Proofs.Layout
import TlvSchema.Summary

/-!
# Containers in a summary

The emitter of a summary is kept from one container to the next.  Still each container has its own part
of the summary, which is told by its model alone, and the parts stand one after the other with a blank
line between them.  Neither a summary nor a listing has groups, so the width does not matter.

* `containerPart` — the part of a container
* `containers_addModel` — a container adds its part, whatever has been emitted before
* `render_document` — a summary is put together from those of the single containers
* `rigid_document`, `FieldListing.rigid_document` — summaries and listings have no groups
-/

namespace TlvSchema

namespace Summary

variable {m : Model} {o : Outline}

/-! ### The part of a container -/

/-- The lines for the functions of a field. -/
def accessorLines (m : Model) (f : FieldModel) : List Doc :=
  .text f.getter :: if m.direction = .input then (f.setter.map Doc.text).toList else []

/-- The sections of a container. -/
def sections (m : Model) : List Doc :=
  [Outline.titled "fields" (m.fields.map fieldCode.declare),
    Outline.titled "wire tags" (m.wireTags.map fun e => .text (e.1 ++ " = " ++ e.2.display)),
    Outline.titled "accessors" (m.fields.flatMap (accessorLines m)),
    Outline.titled "lifecycle"
      [.text (String.intercalate " " (m.lifecycle.filterMap m.operationName))],
    Outline.titled "on dispose" (m.ownedFields.map fieldCode.release)]

/-- The part of a container in a summary. -/
def containerPart (m : Model) : Doc :=
  if m.hasFields then .block Outline.indentation (Outline.header m) (sections m)
  else Outline.header m ++ .text " // no fields"

/-! ### Calls of the emitter -/

theorem run_forM_emitter (calls : List (Call Doc)) (o : Outline) :
    ((calls.forM Outline.emitter).run o).2 = calls.foldl Outline.add o := by
  induction calls generalizing o with
  | nil => rfl
  | cons call calls ih => exact ih (o.add call)

theorem addModel_eq_foldl (o : Outline) (m : Model) :
    addModel o m = (m.calls fieldCode).foldl Outline.add o := by
  rw [addModel, Model.emit_eq_forM, run_forM_emitter]

/-- Steps that each put something at the end of a part put it all there. -/
theorem foldl_put {σ α β : Type} {step : σ → α → σ} {g : α → List β} (put : σ → List β → σ)
    (hnil : ∀ s, put s [] = s) (happend : ∀ s xs ys, put (put s xs) ys = put s (xs ++ ys))
    (hstep : ∀ s a, step s a = put s (g a)) (l : List α) (s : σ) :
    l.foldl step s = put s (l.flatMap g) := by
  induction l generalizing s with
  | nil => exact (hnil s).symm
  | cons a l ih => rw [List.foldl_cons, ih, hstep, happend, List.flatMap_cons]

theorem foldl_declareField (fs : List FieldModel) (o : Outline) :
    (fs.map fun f => Call.declareField f (fieldCode.declare f)).foldl Outline.add o =
      { o with fields := o.fields ++ fs.map fieldCode.declare } := by
  rw [List.foldl_map, List.map_eq_flatMap]
  exact foldl_put (fun o ds => { o with fields := o.fields ++ ds }) (by simp) (by simp)
    (fun _ _ => rfl) fs o

theorem foldl_wireTag (entries : List (String × WireTag)) (o : Outline) :
    (entries.map fun e => Call.wireTag e.1 e.2).foldl Outline.add o =
      { o with wireTags := o.wireTags ++ entries.map fun e => .text (e.1 ++ " = " ++ e.2.display) } := by
  rw [List.foldl_map, List.map_eq_flatMap]
  exact foldl_put (fun o ds => { o with wireTags := o.wireTags ++ ds }) (by simp) (by simp)
    (fun _ _ => rfl) entries o

theorem foldl_accessorCalls (fs : List FieldModel) (o : Outline) :
    (fs.flatMap m.accessorCalls).foldl Outline.add o =
      { o with accessors := o.accessors ++ fs.flatMap (accessorLines m) } := by
  rw [List.foldl_flatMap]
  refine foldl_put (fun o ds => { o with accessors := o.accessors ++ ds }) (by simp) (by simp)
    (fun o f => ?_) fs o
  by_cases hd : m.direction = .input <;> simp [Model.accessorCalls, accessorLines, hd, Outline.add]

/-- **A container adds its part**, whatever has been emitted before. -/
theorem containers_addModel (o : Outline) (m : Model) :
    (addModel o m).containers = o.containers ++ [containerPart m] := by
  rw [addModel_eq_foldl, Model.calls, containerPart]
  by_cases hf : m.hasFields = true
  · rw [if_pos hf, if_pos hf]
    simp only [List.foldl_append, List.foldl_cons, foldl_declareField, foldl_wireTag,
      foldl_accessorCalls]
    rfl
  · rw [if_neg hf, if_neg hf]
    rfl

/-! ### Summaries -/

theorem containers_foldl_addModel (models : List Model) (o : Outline) :
    (models.foldl addModel o).containers = o.containers ++ models.map containerPart := by
  induction models generalizing o with
  | nil => exact (List.append_nil _).symm
  | cons m models ih =>
    rw [List.foldl_cons, ih, containers_addModel, List.append_assoc, List.singleton_append,
      List.map_cons]

theorem document_eq (models : List Model) :
    document models = .separate (.hardLine ++ .hardLine) (models.map containerPart) := by
  rw [document, Outline.document, containers_foldl_addModel, Outline.empty, List.nil_append]

theorem rigid_header (m : Model) : (Outline.header m).Rigid := Doc.rigid_text _

theorem rigid_titled {title : String} {lines : List Doc} (h : ∀ d ∈ lines, d.Rigid) :
    (Outline.titled title lines).Rigid :=
  .block (Doc.rigid_text title) h

theorem rigid_accessorLines (m : Model) (f : FieldModel) : ∀ d ∈ accessorLines m f, d.Rigid := by
  intro d hd
  rcases List.mem_cons.1 hd with rfl | hd
  · exact Doc.rigid_text _
  · split at hd
    · obtain ⟨setter, -, rfl⟩ := Option.map_eq_some_iff.1 (Option.mem_toList.1 hd)
      exact Doc.rigid_text setter
    · exact absurd hd List.not_mem_nil

theorem rigid_sections (m : Model) : ∀ d ∈ sections m, d.Rigid := by
  have htexts {α : Type} (l : List α) (line : α → String) :
      ∀ d ∈ l.map fun a => Doc.text (line a), d.Rigid := by
    intro d hd
    obtain ⟨a, -, rfl⟩ := List.mem_map.1 hd
    exact Doc.rigid_text _
  have hlifecycle (names : String) : ∀ d ∈ [Doc.text names], d.Rigid := htexts [names] id
  have haccessors : ∀ d ∈ m.fields.flatMap (accessorLines m), d.Rigid := fun d hd => by
    obtain ⟨f, -, hd⟩ := List.mem_flatMap.1 hd
    exact rigid_accessorLines m f d hd
  simp only [sections, List.forall_mem_cons]
  exact ⟨rigid_titled (htexts _ _), rigid_titled (htexts _ _), rigid_titled haccessors,
    rigid_titled (hlifecycle _), rigid_titled (htexts _ _), fun _ hd => absurd hd List.not_mem_nil⟩

theorem rigid_containerPart (m : Model) : (containerPart m).Rigid := by
  rw [containerPart]
  by_cases hf : m.hasFields = true
  · rw [if_pos hf]
    exact .block (rigid_header m) (rigid_sections m)
  · rw [if_neg hf]
    exact .append (rigid_header m) (Doc.rigid_text _)

theorem rigid_document (models : List Model) : (document models).Rigid := by
  rw [document_eq]
  refine .separate (.append Doc.rigid_hardLine Doc.rigid_hardLine) fun d hd => ?_
  obtain ⟨m, -, rfl⟩ := List.mem_map.1 hd
  exact rigid_containerPart m

/-- **A summary is put together from those of the single containers**, within any widths, with a blank
line between each two. -/
theorem render_document (models : List Model) (width width' : Option ℕ) :
    (document models).render width =
      String.intercalate "\n\n" (models.map fun m => (document [m]).render width') := by
  have hone (m : Model) : (document [m]).render width' = (containerPart m).plain 0 := by
    rw [Doc.render_of_rigid (rigid_document [m]), document_eq]
    rfl
  rw [Doc.render_of_rigid (rigid_document models), document_eq, Doc.plain_separate, List.map_map]
  simp only [hone]
  rfl

end Summary

/-! ### Listings -/

namespace FieldListing

theorem rigid_container (fullName : String) (fields : List Field) :
    (container fullName fields).Rigid := by
  refine .append (Doc.rigid_text _) (.nest (.append Doc.rigid_hardLine (.separate Doc.rigid_hardLine
    fun d hd => ?_)) _)
  obtain ⟨f, -, rfl⟩ := List.mem_map.1 hd
  exact Doc.rigid_text _

theorem rigid_emptyContainer (fullName : String) : (emptyContainer fullName).Rigid :=
  Doc.rigid_text _

theorem rigid_document {containers : List Doc} (h : ∀ d ∈ containers, d.Rigid) :
    (document containers).Rigid :=
  .separate Doc.rigid_hardLine h

end FieldListing

end TlvSchema
