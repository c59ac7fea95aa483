import TlvSchema.Emission
import TlvSchema.Layout

/-!
# Summaries

A summary shows what an emitter would be handed: the fields of each container in order, the constants
for their wire tags, the accessor functions, and the lifecycle.

* `Summary.fieldCode` — a field in a summary
* `Summary.Outline` — the emitter, which collects one document per container
* `Summary.document` — the summary of several models
-/

namespace TlvSchema.Summary

/-! ### Fields -/

/-- What is said of a field beside its type and tag. -/
def remarks (f : FieldModel) : List String :=
  (f.prerequisite.map ("after " ++ ·)).toList ++
    (if f.storage = .owned then ["owned"] else []) ++ (if f.isResult then ["result"] else [])

/-- The line for a field. -/
def fieldLine (f : FieldModel) : String :=
  f.name ++ ": " ++ f.type.display ++ " = " ++ f.tag.display ++
    (if (remarks f).isEmpty then "" else " " ++ String.intercalate ", " (remarks f))

/-- A field in a summary. -/
def fieldCode : FieldCode Doc where
  declare f := .text (fieldLine f)
  release f := .text ("release " ++ f.name)

/-! ### The emitter -/

/-- What has been emitted: whole containers, and the parts of the container at work. -/
structure Outline where
  /-- The containers that are complete. -/
  containers : List Doc
  /-- The sections of the container at work. -/
  sections : List Doc
  /-- The lines for its fields. -/
  fields : List Doc
  /-- The lines for its wire tags. -/
  wireTags : List Doc
  /-- The lines for its accessor functions. -/
  accessors : List Doc

namespace Outline

/-- Nothing has been emitted. -/
def empty : Outline := ⟨[], [], [], [], []⟩

/-- The columns by which the lines of a section are indented. -/
def indentation : Nat := 4

/-- The first line for a container. -/
def header (model : Model) : Doc :=
  .text (model.typeName ++ " \"" ++ model.fullName ++ "\"")

/-- A section with a title. -/
def titled (title : String) (lines : List Doc) : Doc := .block indentation (.text title) lines

/-- What has been emitted after one more call. -/
def add (o : Outline) : Call Doc → Outline
  | .emptyContainer model =>
    { o with containers := o.containers ++ [header model ++ .text " // no fields"] }
  | .beginContainer _ => { o with sections := [], fields := [], wireTags := [], accessors := [] }
  | .declareField _ declaration => { o with fields := o.fields ++ [declaration] }
  | .wireTag symbol tag =>
    { o with wireTags := o.wireTags ++ [.text (symbol ++ " = " ++ tag.display)] }
  | .getter _ field => { o with accessors := o.accessors ++ [.text field.getter] }
  | .setter _ field => { o with accessors := o.accessors ++ (field.setter.map Doc.text).toList }
  | .lifecycle model operations releases =>
    let names := String.intercalate " " (operations.filterMap model.operationName)
    { o with
      sections := o.sections ++
        [titled "fields" o.fields, titled "wire tags" o.wireTags, titled "accessors" o.accessors,
         titled "lifecycle" [.text names], titled "on dispose" releases]
      fields := [], wireTags := [], accessors := [] }
  | .endContainer model =>
    { o with
      containers := o.containers ++ [.block indentation (header model) o.sections]
      sections := [] }

/-- The emitter. -/
def emitter (call : Call Doc) : StateM Outline Unit := modify (·.add call)

/-- The containers that are complete, with a blank line between each two. -/
def document (o : Outline) : Doc := .separate (.hardLine ++ .hardLine) o.containers

end Outline

/-- What has been emitted after one more model. -/
def addModel (o : Outline) (model : Model) : Outline :=
  ((model.emit fieldCode Outline.emitter).run o).2

/-- The summary of several models. -/
def document (models : List Model) : Doc := (models.foldl addModel .empty).document

end TlvSchema.Summary
