import TlvSchema.Proofs.Summary

/-!
# The text of a summary

A summary is a text in lines.  The lines of a container are told by its model: a section for the fields,
the wire tags, the accessor functions, the lifecycle and the releases, each with its own lines between
braces.  A summary of several containers has the lines of each in their order, and a blank line between
two containers.

* `Doc.HasLines` — a document is made of certain lines, however far it is indented
* `Summary.containerLines` — the lines of a container
* `Summary.hasLines_containerPart` — the part of a container in a summary has these lines
* `Summary.render_models` — the text of a summary
-/

namespace TlvSchema

variable {separator : String}

/-- Lines that are put together in groups are put together all at once. -/
theorem intercalate_map_intercalate {groups : List (List String)} (h : ∀ ls ∈ groups, ls ≠ []) :
    separator.intercalate (groups.map separator.intercalate) =
      separator.intercalate groups.flatten := by
  induction groups with
  | nil => rfl
  | cons ls groups ih =>
    rw [List.forall_mem_cons] at h
    cases groups with
    | nil => simp
    | cons ls' groups =>
      have hrest : (ls' :: groups).flatten ≠ [] := by simp [h.2 ls' List.mem_cons_self]
      rw [List.map_cons, String.intercalate_cons_of_ne_nil (by simp), ih h.2]
      exact (String.intercalate_append_of_ne_nil h.1 hrest).symm

namespace Doc

variable {d : Doc} {ds : List Doc} {ls : List String} {groups : List (List String)}

/-! ### Documents in lines -/

/-- The text of the document consists of the lines, whatever the indentation. -/
structure HasLines (d : Doc) (ls : List String) : Prop where
  /-- There is at least one line. -/
  ne_nil : ls ≠ []
  /-- A line ends where the next one begins. -/
  plain_eq : ∀ indent, d.plain indent = (lineBreak indent).intercalate ls

/-- So many blanks. -/
def blanks (n : ℕ) : String := String.ofList (List.replicate n ' ')

/-- A header with indented lines between braces, or with braces alone if there are none. -/
def blockLines (columns : ℕ) (header : String) (ls : List String) : List String :=
  if ls = [] then [header ++ " \x7b\x7d"]
  else (header ++ " \x7b") :: ls.map (blanks columns ++ ·) ++ ["\x7d"]

theorem hasLines_text (s : String) : (text s).HasLines [s] := ⟨by simp, fun _ => by simp [plain]⟩

theorem HasLines.plain_zero (h : d.HasLines ls) : d.plain 0 = "\n".intercalate ls := h.plain_eq 0

theorem lineBreak_add (indent columns : ℕ) :
    lineBreak (indent + columns) = lineBreak indent ++ blanks columns := by
  rw [lineBreak, lineBreak, blanks, ← List.replicate_append_replicate, String.ofList_append,
    String.append_assoc]

/-- The blanks of an indentation belong to the lines. -/
theorem intercalate_lineBreak_add (indent columns : ℕ) (h : ls ≠ []) :
    lineBreak (indent + columns) ++ (lineBreak (indent + columns)).intercalate ls =
      lineBreak indent ++ (lineBreak indent).intercalate (ls.map (blanks columns ++ ·)) := by
  induction ls with
  | nil => exact absurd rfl h
  | cons l ls ih =>
    cases ls with
    | nil => simp [lineBreak_add, String.append_assoc]
    | cons l' ls =>
      have hne : (l' :: ls).map (blanks columns ++ ·) ≠ [] := by simp
      have ih' := ih (List.cons_ne_nil l' ls)
      rw [List.map_cons, String.intercalate_cons_of_ne_nil (List.cons_ne_nil l' ls),
        String.intercalate_cons_of_ne_nil hne, @String.append_assoc l, ih', lineBreak_add]
      simp only [String.append_assoc]

theorem hasLines_separate (h : List.Forall₂ HasLines ds groups) (hne : ds ≠ []) :
    (separate hardLine ds).HasLines groups.flatten := by
  have hgroups : ∀ ls ∈ groups, ls ≠ [] := by
    clear hne
    induction h with
    | nil => simp
    | cons hd _ ih => exact List.forall_mem_cons.2 ⟨hd.ne_nil, ih⟩
  refine ⟨?_, fun indent => ?_⟩
  · cases h with
    | nil => exact absurd rfl hne
    | cons hd _ => simp [hd.ne_nil]
  · have hmap : ds.map (plain indent) = groups.map (lineBreak indent).intercalate := by
      clear hne hgroups
      induction h with
      | nil => rfl
      | cons hd _ ih => rw [List.map_cons, List.map_cons, hd.plain_eq, ih]
    rw [plain_separate, hmap, ← intercalate_map_intercalate hgroups]
    rfl

/-- A block has the lines of its documents, indented, between its header and its end. -/
theorem hasLines_block {columns : ℕ} {header : String} (h : List.Forall₂ HasLines ds groups) :
    (block columns (text header) ds).HasLines (blockLines columns header groups.flatten) := by
  cases h with
  | nil => exact ⟨by simp [blockLines], fun _ => by simp [blockLines, block, plain]⟩
  | @cons d ls ds groups hd hds =>
    have hlines := hasLines_separate (.cons hd hds) (List.cons_ne_nil d ds)
    rw [blockLines, if_neg hlines.ne_nil]
    refine ⟨by simp, fun indent => ?_⟩
    have hinner := intercalate_lineBreak_add indent columns hlines.ne_nil
    rw [← hlines.plain_eq] at hinner
    have hne : (ls :: groups).flatten.map (blanks columns ++ ·) ≠ [] :=
      mt List.map_eq_nil_iff.1 hlines.ne_nil
    change header ++ " \x7b" ++ (lineBreak (indent + columns) ++ _) ++ lineBreak indent ++ "\x7d" = _
    rw [hinner, List.cons_append, String.intercalate_cons_of_ne_nil (by simp),
      String.intercalate_append_of_ne_nil hne (by simp), String.intercalate_singleton]
    simp only [String.append_assoc]

end Doc

/-! ### Containers in lines -/

namespace Summary

open Doc

/-- A section with a title and lines of its own. -/
def sectionLines (title : String) (ls : List String) : List String :=
  blockLines Outline.indentation title ls

/-- The lines of a container. -/
def containerLines (m : Model) : List String :=
  let header := m.typeName ++ " \"" ++ m.fullName ++ "\""
  if m.hasFields then
    blockLines Outline.indentation header
      [sectionLines "fields" (m.fields.map fieldLine),
        sectionLines "wire tags" (m.fields.map fun f => f.symbol ++ " = " ++ f.tag.display),
        sectionLines "accessors"
          (m.fields.flatMap fun f =>
            f.getter :: if m.direction = .input then f.setter.toList else []),
        sectionLines "lifecycle" [" ".intercalate (m.lifecycle.filterMap m.operationName)],
        sectionLines "on dispose" (m.ownedFields.map fun f => "release " ++ f.name)].flatten
  else [header ++ " // no fields"]

theorem hasLines_titled (title : String) (ls : List String) :
    (Outline.titled title (ls.map Doc.text)).HasLines (sectionLines title ls) := by
  have hlines : List.Forall₂ HasLines (ls.map Doc.text) (ls.map fun l => [l]) := by
    rw [List.forall₂_map_left_iff, List.forall₂_map_right_iff, List.forall₂_same]
    exact fun l _ => hasLines_text l
  have hflatten : (ls.map fun l => [l]).flatten = ls := by
    rw [← List.flatMap_def]
    exact List.flatMap_singleton' ls
  have hblock : (Outline.titled title (ls.map Doc.text)).HasLines
      (blockLines Outline.indentation title (ls.map fun l => [l]).flatten) := hasLines_block hlines
  rwa [hflatten] at hblock

theorem hasLines_titled_map {α : Type} (title : String) (line : α → String) (l : List α) :
    (Outline.titled title (l.map fun a => Doc.text (line a))).HasLines
      (sectionLines title (l.map line)) := by
  have h := hasLines_titled title (l.map line)
  rwa [List.map_map] at h

theorem map_text_accessorLines (m : Model) (f : FieldModel) :
    (f.getter :: if m.direction = .input then f.setter.toList else []).map Doc.text =
      accessorLines m f := by
  rw [accessorLines]
  by_cases hd : m.direction = .input <;> cases f.setter <;> simp [hd]

/-- The part of a container in a summary has the lines of the container. -/
theorem hasLines_containerPart (m : Model) : (containerPart m).HasLines (containerLines m) := by
  rw [containerPart, containerLines]
  by_cases hf : m.hasFields = true
  · rw [if_pos hf, if_pos hf]
    refine hasLines_block (.cons ?_ (.cons ?_ (.cons ?_ (.cons ?_ (.cons ?_ .nil)))))
    · exact hasLines_titled_map "fields" fieldLine m.fields
    · rw [Model.wireTags, List.map_map]
      exact hasLines_titled_map "wire tags" (fun f => f.symbol ++ " = " ++ f.tag.display) m.fields
    · have haccessors := hasLines_titled "accessors" (m.fields.flatMap fun f =>
        f.getter :: if m.direction = .input then f.setter.toList else [])
      rw [List.map_flatMap] at haccessors
      simpa only [map_text_accessorLines] using haccessors
    · exact hasLines_titled "lifecycle" [" ".intercalate (m.lifecycle.filterMap m.operationName)]
    · exact hasLines_titled_map "on dispose" (fun f => "release " ++ f.name) m.ownedFields
  · rw [if_neg hf, if_neg hf]
    exact ⟨by simp, fun indent => by simp [Outline.header, plain]⟩

/-! ### Summaries in lines -/

theorem render_document_singleton (m : Model) (width : Option ℕ) :
    (document [m]).render width = "\n".intercalate (containerLines m) := by
  rw [render_of_rigid (rigid_document [m]), document_eq]
  exact (hasLines_containerPart m).plain_zero

/-- Groups of lines with a blank line between each two. -/
theorem intercalate_blankLine {groups : List (List String)} (h : ∀ ls ∈ groups, ls ≠ []) :
    "\n".intercalate (List.intercalate [""] groups) =
      "\n\n".intercalate (groups.map "\n".intercalate) := by
  induction groups with
  | nil => rfl
  | cons ls groups ih =>
    rw [List.forall_mem_cons] at h
    cases groups with
    | nil => simp
    | cons ls' groups =>
      have hrest : List.intercalate [""] (ls' :: groups) ≠ [] := by
        have hls' : ls' ≠ [] := h.2 ls' List.mem_cons_self
        cases groups <;> simp [List.intercalate_cons_cons, hls']
      rw [List.map_cons, String.intercalate_cons_of_ne_nil (by simp), ← ih h.2,
        List.intercalate_cons_cons, List.append_assoc,
        String.intercalate_append_of_ne_nil h.1 (by simp), List.singleton_append,
        String.intercalate_cons_of_ne_nil hrest]
      simp only [String.append_assoc, String.empty_append]
      rw [← @String.append_assoc "\n"]
      rfl

/-- **The text of a summary.**  A summary of several models, made within some width by one emitter that
is kept from each to the next, is put together from those of the single models, each made within any
other width by an emitter of its own, with a blank line between each two.  Its lines are those of the
single models, and these are told by the model alone. -/
theorem render_models (models : List Model) (width width' : Option ℕ) :
    (document models).render width =
      "\n\n".intercalate (models.map fun m => (document [m]).render width') ∧
    (∀ m, (document [m]).render width' = "\n".intercalate (containerLines m)) ∧
    (document models).render width =
      "\n".intercalate (List.intercalate [""] (models.map containerLines)) := by
  have hlines : ∀ ls ∈ models.map containerLines, ls ≠ [] := by
    intro ls hls
    obtain ⟨m, -, rfl⟩ := List.mem_map.1 hls
    exact (hasLines_containerPart m).ne_nil
  refine ⟨render_document models width width', fun m => render_document_singleton m width', ?_⟩
  rw [intercalate_blankLine hlines, render_document models width width', List.map_map]
  simp only [render_document_singleton]
  rfl

example :
    containerLines ⟨"Msg A Output", .output, some
      [⟨"Foo", ⟨1⟩, "MSG_A_OUTPUT_TLV_FOO", "string", .string, some "Bar", "msg_a_output_get_foo",
        none⟩]⟩ =
      ["MsgAOutput \"Msg A Output\" \x7b",
        "    fields \x7b",
        "        Foo: string = 0x01 after Bar, owned",
        "    \x7d",
        "    wire tags \x7b",
        "        MSG_A_OUTPUT_TLV_FOO = 0x01",
        "    \x7d",
        "    accessors \x7b",
        "        msg_a_output_get_foo",
        "    \x7d",
        "    lifecycle \x7b",
        "        msg_a_output_ref msg_a_output_unref",
        "    \x7d",
        "    on dispose \x7b",
        "        release Foo",
        "    \x7d",
        "\x7d"] := by
  decide +kernel

end Summary

end TlvSchema
