import TlvSchema.Proofs.Slots
import TlvSchema.Proofs.SummaryText
import TlvSchema.Proofs.TypeText

/-!
# Fields whose types change

The text of a type says which type it is and where it ends, so it can be read wherever it is shown.  A value
that does not fit is refused with the type that was expected, and the refusals for two types are worded
differently.  A summary shows the type of each field in a line.  If a field gets another type, the line
changes there, and nothing that comes after it, remarks and releases among them, makes up for that.

* `Model.untyped` — a model without the types of its fields
* `Summary.Fixes` — lines that can be read off the texts that begin with them
* `Summary.fixes_containerLines` — the types can be read off the lines of a container
* `Summary.types_eq_of_render` — summaries that differ in types alone have different texts
* `types_shown` — types, refusals and summaries
-/

namespace TlvSchema

/-! ### Models without types -/

/-- The field without its format and its type. -/
def FieldModel.untyped (f : FieldModel) : FieldModel := { f with format := "", type := .string }

/-- The model without the formats and the types of its fields. -/
def Model.untyped (m : Model) : Model :=
  { m with declared := m.declared.map (List.map FieldModel.untyped) }

namespace Model

variable {m m' : Model}

theorem fields_untyped (m : Model) : m.untyped.fields = m.fields.map FieldModel.untyped := by
  rw [fields, untyped, fields]
  cases m.declared <;> rfl

theorem hasFields_eq_of_untyped (h : m.untyped = m'.untyped) : m.hasFields = m'.hasFields := by
  have hd := congrArg hasFields h
  simpa [hasFields, untyped] using hd

theorem map_untyped_eq (h : m.untyped = m'.untyped) :
    m.fields.map FieldModel.untyped = m'.fields.map FieldModel.untyped := by
  rw [← fields_untyped, ← fields_untyped, h]

end Model

/-! ### Refusals -/

namespace Model

variable {m m' : Model} {slots slots' : List (Option Value)} {name : String} {v v' : Value}
  {f f' : FieldModel} {e e' : UsageError}

/-- A value for a field can only be refused because of its type. -/
theorem eq_typeMismatch_of_place (hf : m.field? name = some f) (h : m.place slots name v = .error e) :
    e = .typeMismatch m.fullName name f.type.display := by
  have hp : m.misfit? (name, v) = some e := place_eq_error_iff.1 h
  rw [misfit?, hf] at hp
  dsimp only at hp
  split_ifs at hp
  exact (Option.some.inj hp).symm

/-- Refusals of values for one field tell the type of the field. -/
theorem type_eq_of_message (hm : m.fullName = m'.fullName) (hf : m.field? name = some f)
    (hf' : m'.field? name = some f') (ht : f.type.Plain) (ht' : f'.type.Plain)
    (h : m.place slots name v = .error e) (h' : m'.place slots' name v' = .error e')
    (hmessage : e.message = e'.message) : f.type = f'.type := by
  rw [eq_typeMismatch_of_place hf h, eq_typeMismatch_of_place hf' h', UsageError.message,
    UsageError.message, hm] at hmessage
  exact FieldType.display_injective ht ht' ((String.append_right_inj _).1 hmessage)

end Model

/-! ### Lines that can be read -/

namespace Summary

open Doc

variable {P : Prop} {ls ls' ms ms' : List String} {xs ys : List Char} {f g : FieldModel}
  {m m' : Model} {models models' : List Model}

/-- The lines, each of which is ended. -/
def closedLines (ls : List String) : List Char := ls.flatMap fun l => l.toList ++ ['\n']

theorem closedLines_cons_append (l : String) (ls : List String) (xs : List Char) :
    closedLines (l :: ls) ++ xs = l.toList ++ '\n' :: (closedLines ls ++ xs) := by
  simp [closedLines]

theorem closedLines_append (ls ms : List String) (xs : List Char) :
    closedLines (ls ++ ms) ++ xs = closedLines ls ++ (closedLines ms ++ xs) := by
  simp [closedLines]

theorem toList_intercalate_append (h : ls ≠ []) (xs : List Char) :
    ("\n".intercalate ls).toList ++ '\n' :: xs = closedLines ls ++ xs := by
  induction ls with
  | nil => exact absurd rfl h
  | cons l ls ih =>
    rw [closedLines_cons_append]
    cases ls with
    | nil => simp [closedLines]
    | cons l' ls =>
      have hne : l' :: ls ≠ [] := List.cons_ne_nil l' ls
      rw [← ih hne, String.intercalate_cons_of_ne_nil hne]
      simp

/-- Whenever two texts begin with the lines, behind whatever indentation, `P` holds and the texts go on
alike. -/
def Fixes (P : Prop) (ls ls' : List String) : Prop :=
  ∀ (indentation : String) (xs ys : List Char),
    closedLines (ls.map (indentation ++ ·)) ++ xs = closedLines (ls'.map (indentation ++ ·)) ++ ys →
      P ∧ xs = ys

theorem blockLines_ne_nil (columns : ℕ) (header : String) (ls : List String) :
    blockLines columns header ls ≠ [] := by
  rw [blockLines]
  split_ifs <;> simp

namespace Fixes

theorem refl (hP : P) (ls : List String) : Fixes P ls ls :=
  fun _ _ _ h => ⟨hP, List.append_cancel_left h⟩

theorem append (h : Fixes P ls ls') (hms : P → ms = ms') : Fixes P (ls ++ ms) (ls' ++ ms') := by
  intro indentation xs ys he
  rw [List.map_append, List.map_append, closedLines_append, closedLines_append] at he
  obtain ⟨hP, hrest⟩ := h _ _ _ he
  rw [hms hP] at hrest
  exact ⟨hP, List.append_cancel_left hrest⟩

theorem cons (h : Fixes P ls ls') (l : String) : Fixes P (l :: ls) (l :: ls') := by
  intro indentation xs ys he
  rw [List.map_cons, List.map_cons, closedLines_cons_append, closedLines_cons_append] at he
  exact h _ _ _ (List.tail_eq_of_cons_eq (List.append_cancel_left he))

theorem indent (h : Fixes P ls ls') (s : String) : Fixes P (ls.map (s ++ ·)) (ls'.map (s ++ ·)) := by
  intro indentation xs ys he
  rw [List.map_map, List.map_map] at he
  refine h (indentation ++ s) xs ys ?_
  simpa only [Function.comp_def, String.append_assoc] using he

/-- Lines between braces are as good as the lines themselves. -/
theorem block (h : Fixes P ls ls') (hnil : ls = [] ↔ ls' = []) (columns : ℕ) (header : String) :
    Fixes P (blockLines columns header ls) (blockLines columns header ls') := by
  by_cases hls : ls = []
  · have hP : P := by
      rw [hls, hnil.1 hls] at h
      exact (h "" [] [] rfl).1
    rw [hls, hnil.1 hls]
    exact refl hP _
  · rw [blockLines, blockLines, if_neg hls, if_neg (mt hnil.2 hls)]
    exact ((h.indent _).append fun _ => rfl).cons _

end Fixes

/-! ### The line of a field -/

/-- Remarks behind a field. -/
def remarksText (rs : List String) : String :=
  if rs.isEmpty then "" else " " ++ String.intercalate ", " rs

/-- One more remark goes on behind the others. -/
theorem exists_remarksText_concat (rs : List String) (r : String) :
    ∃ c cs, c ≠ '\n' ∧ (remarksText (rs ++ [r])).toList = (remarksText rs).toList ++ c :: cs := by
  by_cases hrs : rs = []
  · exact ⟨' ', r.toList, by decide, by simp [hrs, remarksText]⟩
  · refine ⟨',', ' ' :: r.toList, by decide, ?_⟩
    have hjoin := String.intercalate_append_of_ne_nil (s := ", ") hrs (List.cons_ne_nil r [])
    simp [remarksText, hrs, hjoin]

/-- Whether there is one more remark can be read off the end of the line. -/
theorem remarksText_append_inj {b b' : Bool} {rs : List String} {r : String}
    (h : (remarksText (rs ++ if b then [r] else [])).toList ++ '\n' :: xs =
      (remarksText (rs ++ if b' then [r] else [])).toList ++ '\n' :: ys) : xs = ys := by
  obtain ⟨c, cs, hc, hmore⟩ := exists_remarksText_concat rs r
  cases b <;> cases b' <;>
    simp only [if_true, if_false, Bool.false_eq_true, List.append_nil, hmore, List.append_assoc] at h
  · exact List.tail_eq_of_cons_eq (List.append_cancel_left h)
  · exact absurd (List.head_eq_of_cons_eq (List.append_cancel_left h)).symm hc
  · exact absurd (List.head_eq_of_cons_eq (List.append_cancel_left h)) hc
  · have hrest := List.append_cancel_left h
    exact List.tail_eq_of_cons_eq (List.append_cancel_left (List.tail_eq_of_cons_eq hrest))

/-- **The type can be read off the line of a field.** -/
theorem fieldLine_append_inj (hu : f.untyped = g.untyped) (hf : f.type.Plain) (hg : g.type.Plain)
    (h : (fieldLine f).toList ++ '\n' :: xs = (fieldLine g).toList ++ '\n' :: ys) :
    f.type = g.type ∧ xs = ys := by
  have hline (f : FieldModel) (xs : List Char) : (fieldLine f).toList ++ '\n' :: xs =
      (f.name ++ ": ").toList ++ (f.type.display.toList ++ ((" = " ++ f.tag.display).toList ++
        ((remarksText (remarks f)).toList ++ '\n' :: xs))) := by
    simp [fieldLine, remarksText]
  simp only [FieldModel.untyped, FieldModel.mk.injEq, true_and] at hu
  obtain ⟨hname, htag, -, hprerequisite, -, -⟩ := hu
  rw [hline, hline, hname, htag] at h
  obtain ⟨ht, hrest⟩ := FieldType.display_append_inj _ _ _ _ hf hg (List.append_cancel_left h)
  refine ⟨ht, ?_⟩
  rw [List.append_cancel_left_eq, remarks, remarks, hprerequisite, FieldModel.storage,
    FieldModel.storage, ht] at hrest
  exact remarksText_append_inj hrest

theorem fixes_fieldLines {fs gs : List FieldModel}
    (hu : fs.map FieldModel.untyped = gs.map FieldModel.untyped) (hf : ∀ f ∈ fs, f.type.Plain)
    (hg : ∀ g ∈ gs, g.type.Plain) :
    Fixes (fs.map (·.type) = gs.map (·.type)) (fs.map fieldLine) (gs.map fieldLine) := by
  intro indentation xs ys h
  induction fs generalizing gs with
  | nil =>
    cases gs with
    | nil => exact ⟨rfl, h⟩
    | cons g gs => cases hu
  | cons f fs ih =>
    cases gs with
    | nil => cases hu
    | cons g gs =>
      obtain ⟨hfirst, hothers⟩ := List.cons.inj hu
      obtain ⟨hf, hfs⟩ := List.forall_mem_cons.1 hf
      obtain ⟨hg, hgs⟩ := List.forall_mem_cons.1 hg
      simp only [List.map_cons, closedLines_cons_append, String.toList_append, List.append_assoc] at h
      obtain ⟨ht, hrest⟩ := fieldLine_append_inj hfirst hf hg (List.append_cancel_left h)
      obtain ⟨hts, hxs⟩ := ih hothers hfs hgs hrest
      exact ⟨by rw [List.map_cons, List.map_cons, ht, hts], hxs⟩

/-! ### The lines of a container -/

/-- The sections of a container after that for its fields. -/
def laterLines (m : Model) : List String :=
  [sectionLines "wire tags" (m.fields.map fun f => f.symbol ++ " = " ++ f.tag.display),
    sectionLines "accessors"
      (m.fields.flatMap fun f => f.getter :: if m.direction = .input then f.setter.toList else []),
    sectionLines "lifecycle" [" ".intercalate (m.lifecycle.filterMap m.operationName)],
    sectionLines "on dispose" (m.ownedFields.map fun f => "release " ++ f.name)].flatten

/-- The field without its format. -/
def unformatted (f : FieldModel) : FieldModel := { f with format := "" }

theorem map_unformatted (fs : List FieldModel) : fs.map unformatted =
    List.zipWith (fun f type => { f with type := type }) (fs.map FieldModel.untyped)
      (fs.map (·.type)) := by
  rw [List.zipWith_map, List.zipWith_self]
  rfl

/-- The sections after the fields depend on the types, and not on the formats. -/
theorem laterLines_eq (hu : m.untyped = m'.untyped)
    (ht : m.fields.map (·.type) = m'.fields.map (·.type)) : laterLines m = laterLines m' := by
  obtain ⟨hname, hdirection, -⟩ := Model.mk.inj hu
  have hfields : m.fields.map unformatted = m'.fields.map unformatted := by
    rw [map_unformatted, map_unformatted, Model.map_untyped_eq hu, ht]
  have hmap {α : Type} (p : FieldModel → α) (hp : ∀ f, p (unformatted f) = p f) :
      m.fields.map p = m'.fields.map p := by
    have h := congrArg (List.map p) hfields
    simpa only [List.map_map, Function.comp_def, hp] using h
  have hflatMap {α : Type} (p : FieldModel → List α) (hp : ∀ f, p (unformatted f) = p f) :
      m.fields.flatMap p = m'.fields.flatMap p := by
    rw [List.flatMap_def, List.flatMap_def, hmap p hp]
  have howned : m.ownedFields.map (fun f => "release " ++ f.name) =
      m'.ownedFields.map fun f => "release " ++ f.name := by
    have h := congrArg (List.filter (·.storage = .owned)) hfields
    rw [List.filter_map, List.filter_map] at h
    have hnames := congrArg (List.map fun f => "release " ++ f.name) h
    rw [List.map_map, List.map_map] at hnames
    exact hnames
  have hlifecycle : m.lifecycle.filterMap m.operationName =
      m'.lifecycle.filterMap m'.operationName := by
    have hsame : m.lifecycle = m'.lifecycle := by rw [Model.lifecycle, Model.lifecycle, hdirection]
    rw [← hsame]
    refine List.filterMap_congr fun op hop => ?_
    cases op with
    | get i | set i =>
      -- no such operation is about a field
      rw [Model.lifecycle] at hop
      split_ifs at hop <;> simp at hop
    | create | retain | release =>
      simp [Model.operationName, Model.functionStem, Model.isReadOnly, hname, hdirection]
  rw [laterLines, laterLines, howned, hlifecycle, hdirection, hmap _ fun _ => rfl,
    hflatMap _ fun _ => rfl]

theorem containerLines_of_hasFields (h : m.hasFields = true) :
    containerLines m =
      blockLines Outline.indentation (m.typeName ++ " \"" ++ m.fullName ++ "\"")
        (sectionLines "fields" (m.fields.map fieldLine) ++ laterLines m) := by
  rw [containerLines, if_pos h]
  rfl

/-- **The types of the fields can be read off the lines of a container.** -/
theorem fixes_containerLines (hu : m.untyped = m'.untyped) (hm : ∀ f ∈ m.fields, f.type.Plain)
    (hm' : ∀ f ∈ m'.fields, f.type.Plain) :
    Fixes (m.fields.map (·.type) = m'.fields.map (·.type)) (containerLines m) (containerLines m') := by
  have hname : m.fullName = m'.fullName := (Model.mk.inj hu).1
  have hhas := Model.hasFields_eq_of_untyped hu
  have hfields := Model.map_untyped_eq hu
  have hnil : m.fields.map fieldLine = [] ↔ m'.fields.map fieldLine = [] := by
    rw [List.map_eq_nil_iff, List.map_eq_nil_iff, ← List.map_eq_nil_iff (f := FieldModel.untyped),
      hfields, List.map_eq_nil_iff]
  by_cases hf : m.hasFields = true
  · rw [containerLines_of_hasFields hf, containerLines_of_hasFields (hhas ▸ hf), Model.typeName,
      Model.typeName, hname]
    have hlines := (fixes_fieldLines hfields hm hm').block hnil Outline.indentation "fields"
    refine (hlines.append fun ht => laterLines_eq hu ht).block ?_ _ _
    simp [blockLines_ne_nil]
  · have hnone {m : Model} (h : ¬ m.hasFields = true) : m.fields = [] := by
      rw [Model.fields]
      cases hd : m.declared with
      | none => rfl
      | some fs => simp [Model.hasFields, hd] at h
    have hf' : ¬ m'.hasFields = true := hhas ▸ hf
    rw [containerLines, containerLines, if_neg hf, if_neg hf', Model.typeName, Model.typeName, hname,
      hnone hf, hnone hf']
    exact Fixes.refl rfl _

/-! ### Summaries -/

/-- The lines of a container as a text. -/
def containerText (m : Model) : String := "\n".intercalate (containerLines m)

theorem containerText_append_inj (hu : m.untyped = m'.untyped) (hm : ∀ f ∈ m.fields, f.type.Plain)
    (hm' : ∀ f ∈ m'.fields, f.type.Plain)
    (h : (containerText m).toList ++ '\n' :: xs = (containerText m').toList ++ '\n' :: ys) :
    m.fields.map (·.type) = m'.fields.map (·.type) ∧ xs = ys := by
  rw [containerText, containerText, toList_intercalate_append (hasLines_containerPart m).ne_nil,
    toList_intercalate_append (hasLines_containerPart m').ne_nil] at h
  refine fixes_containerLines hu hm hm' "" xs ys ?_
  simpa using h

/-- The texts of several containers, with the end of a line before and after each of them. -/
def separateTexts (models : List Model) : List Char :=
  models.flatMap fun m => '\n' :: ((containerText m).toList ++ ['\n'])

theorem separateTexts_cons (m : Model) (models : List Model) :
    separateTexts (m :: models) = '\n' :: ((containerText m).toList ++ '\n' :: separateTexts models) := by
  simp [separateTexts]

theorem toList_intercalate_containerText (h : models ≠ []) :
    '\n' :: (("\n\n".intercalate (models.map containerText)).toList ++ ['\n']) =
      separateTexts models := by
  induction models with
  | nil => exact absurd rfl h
  | cons m models ih =>
    rw [separateTexts_cons]
    cases models with
    | nil => simp [separateTexts]
    | cons n models =>
      have hne : (n :: models).map containerText ≠ [] := by simp
      rw [← ih (List.cons_ne_nil n models), List.map_cons,
        String.intercalate_cons_of_ne_nil hne]
      simp

theorem types_eq_of_separateTexts (hu : models.map Model.untyped = models'.map Model.untyped)
    (hm : ∀ m ∈ models, ∀ f ∈ m.fields, f.type.Plain)
    (hm' : ∀ m ∈ models', ∀ f ∈ m.fields, f.type.Plain)
    (h : separateTexts models = separateTexts models') :
    (models.map fun m => m.fields.map (·.type)) = models'.map fun m => m.fields.map (·.type) := by
  induction models generalizing models' with
  | nil =>
    cases models' with
    | nil => rfl
    | cons m' models' => cases hu
  | cons m models ih =>
    cases models' with
    | nil => cases hu
    | cons m' models' =>
      obtain ⟨hfirst, hothers⟩ := List.cons.inj hu
      obtain ⟨hm, hms⟩ := List.forall_mem_cons.1 hm
      obtain ⟨hm', hms'⟩ := List.forall_mem_cons.1 hm'
      rw [separateTexts_cons, separateTexts_cons] at h
      obtain ⟨ht, hrest⟩ := containerText_append_inj hfirst hm hm' (List.tail_eq_of_cons_eq h)
      rw [List.map_cons, List.map_cons, ht, ih hothers hms hms' hrest]

/-- **Summaries that differ in types alone have different texts**, within any widths. -/
theorem types_eq_of_render (hu : models.map Model.untyped = models'.map Model.untyped)
    (hm : ∀ m ∈ models, ∀ f ∈ m.fields, f.type.Plain)
    (hm' : ∀ m ∈ models', ∀ f ∈ m.fields, f.type.Plain) {width width' : Option ℕ}
    (h : (document models).render width = (document models').render width') :
    (models.map fun m => m.fields.map (·.type)) = models'.map fun m => m.fields.map (·.type) := by
  have htext (models : List Model) (width : Option ℕ) : (document models).render width =
      "\n\n".intercalate (models.map containerText) := by
    rw [render_document models width none]
    simp only [render_document_singleton]
    rfl
  by_cases hnil : models = []
  · subst hnil
    rw [List.map_eq_nil_iff.1 hu.symm]
  · have hnil' : models' ≠ [] := by
      rintro rfl
      exact hnil (List.map_eq_nil_iff.1 hu)
    refine types_eq_of_separateTexts hu hm hm' ?_
    rw [← toList_intercalate_containerText hnil, ← toList_intercalate_containerText hnil',
      ← htext models width, ← htext models' width', h]

end Summary

/-! ### Types that show -/

/-- **Types show.**  Types whose members have names without colons and closing braces, and with any other
punctuation, are told apart by their texts.  So the refusal of a value tells the type of the field, and of
two lists of models that differ in the formats and types of fields alone, the summaries have different texts
if some types are different. -/
theorem types_shown :
    (∀ s t : FieldType, s.Plain → t.Plain → s.display = t.display → s = t) ∧
    (∀ (m m' : Model) (name : String) (f f' : FieldModel), m.fullName = m'.fullName →
      m.field? name = some f → m'.field? name = some f' → f.type.Plain → f'.type.Plain →
      ∀ (slots slots' : List (Option Value)) (v v' : Value) (e e' : UsageError),
        m.place slots name v = .error e → m'.place slots' name v' = .error e' →
        e.message = e'.message → f.type = f'.type) ∧
    ∀ models models' : List Model, models.map Model.untyped = models'.map Model.untyped →
      (∀ m ∈ models, ∀ f ∈ m.fields, f.type.Plain) → (∀ m ∈ models', ∀ f ∈ m.fields, f.type.Plain) →
      ∀ width width' : Option ℕ,
        (Summary.document models).render width = (Summary.document models').render width' →
        (models.map fun m => m.fields.map (·.type)) = models'.map fun m => m.fields.map (·.type) := by
  refine ⟨fun s t => FieldType.display_injective, ?_, ?_⟩
  · intro m m' name f f' hm hf hf' ht ht' slots slots' v v' e e' h h' hmessage
    exact Model.type_eq_of_message hm hf hf' ht ht' h h' hmessage
  · intro models models' hu hm hm' width width' h
    exact Summary.types_eq_of_render hu hm hm' h

/-- A struct with a name that looks like two members, and with a struct without a name. -/
def oddStruct (members : List (String × FieldType)) : FieldType :=
  .struct [("u8, b", .scalar .u8), ("", .array (.struct members))]

/-- A model with one field. -/
def modelOfType (type : FieldType) : Model where
  fullName := "Msg A Input"
  direction := .input
  declared := some
    [⟨"Foo", ⟨1⟩, "MSG_A_INPUT_TLV_FOO", "struct", type, none, "msg_a_input_get_foo",
      some "msg_a_input_set_foo"⟩]

theorem types_shown_oddStructs :
    let s := oddStruct []
    let t := oddStruct [("", .string)]
    s.Plain ∧ t.Plain ∧ s.display ≠ t.display ∧
      (∃ e e', (modelOfType s).place [none] "Foo" (.u8 1) = .error e ∧
        (modelOfType t).place [none] "Foo" (.u8 1) = .error e' ∧ e.message ≠ e'.message) ∧
      (Summary.document [modelOfType s]).render none ≠
        (Summary.document [modelOfType t]).render (some 80) := by
  obtain ⟨htexts, hmessages, hsummaries⟩ := types_shown
  intro s t
  have hs : s.Plain := by decide +kernel
  have ht : t.Plain := by decide +kernel
  have hne : s ≠ t := by simp [s, t, oddStruct]
  refine ⟨hs, ht, fun h => hne (htexts s t hs ht h), ⟨_, _, rfl, rfl, fun h => hne ?_⟩, fun h => hne ?_⟩
  · exact hmessages (modelOfType s) (modelOfType t) "Foo" _ _ rfl rfl rfl hs ht [none] [none] (.u8 1)
      (.u8 1) _ _ rfl rfl h
  · have hplain {type : FieldType} (hp : type.Plain) :
        ∀ m ∈ [modelOfType type], ∀ f ∈ m.fields, f.type.Plain := by
      simpa [modelOfType, Model.fields] using hp
    have htypes := hsummaries [modelOfType s] [modelOfType t] rfl (hplain hs) (hplain ht) _ _ h
    exact (List.cons.inj (List.cons.inj htypes).1).1

end TlvSchema
