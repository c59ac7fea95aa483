import TlvSchema.Model

/-!
# Emission

An emitter turns models into output, such as a program text or a summary.  It is called for each part
of a model in turn: for the container, for the declaration of every field, for every wire tag, for the
functions of every field, for the lifecycle with what has to be released, and for the end of the
container.  A container without a list of fields makes one call only.

* `FieldCode` — how the storage of a field is declared and released
* `Call` — what an emitter is called with
* `Model.emit` — the calls for a model
-/

namespace TlvSchema

/-- How the storage of a field is written in the target language. -/
structure FieldCode (φ : Type) where
  /-- The declaration of the field's storage. -/
  declare : FieldModel → φ
  /-- The release of the storage that the field's value owns. -/
  release : FieldModel → φ

/-- What an emitter is called with; `φ` is a piece of the target language. -/
inductive Call (φ : Type) where
  /-- A container without a list of fields. -/
  | emptyContainer (model : Model)
  /-- The start of a container. -/
  | beginContainer (model : Model)
  /-- The declaration of a field. -/
  | declareField (field : FieldModel) (declaration : φ)
  /-- The constant for a wire tag. -/
  | wireTag (symbol : String) (tag : WireTag)
  /-- The function that reads a field. -/
  | getter (model : Model) (field : FieldModel)
  /-- The function that writes a field. -/
  | setter (model : Model) (field : FieldModel)
  /-- The functions for the container as a whole, and what is released with the last reference. -/
  | lifecycle (model : Model) (operations : List Operation) (releases : List φ)
  /-- The end of a container. -/
  | endContainer (model : Model)

namespace Model

variable {φ : Type} {m : Type → Type} [Monad m]

/-- Call the emitter for an operation on a field. -/
def emitAccessor (emitter : Call φ → m Unit) (model : Model) : Operation → m Unit
  | .get index => model.fields[index]?.forM fun field => emitter (.getter model field)
  | .set index => model.fields[index]?.forM fun field => emitter (.setter model field)
  | .create | .retain | .release => pure ()

/-- Call the emitter for every part of a model. -/
def emit (code : FieldCode φ) (emitter : Call φ → m Unit) (model : Model) : m Unit := do
  if model.hasFields then
    emitter (.beginContainer model)
    model.fields.forM fun field => emitter (.declareField field (code.declare field))
    model.wireTags.forM fun entry => emitter (.wireTag entry.1 entry.2)
    model.operations.forM (emitAccessor emitter model)
    emitter (.lifecycle model (model.operations.filter (·.isLifecycle))
      (model.ownedFields.map code.release))
    emitter (.endContainer model)
  else
    emitter (.emptyContainer model)

end Model

end TlvSchema
