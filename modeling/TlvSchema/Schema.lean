import TlvSchema.CommonTable
import TlvSchema.Event
import TlvSchema.Json.Parser
import TlvSchema.Schema.Entry
import TlvSchema.SchemaError

/-!
# Schemas

A schema is a JSON array.  Its entries define common fields or describe messages; other entries are
left out.  A message has an input and an output container, an indication only an output container.

* `Schema` — the common definitions and the containers
* `LoadError` — what can be wrong with the text of a schema
* `Schema.load` — the schema that a text stands for
-/

namespace TlvSchema

/-- The contents of a schema. -/
structure Schema where
  /-- The common definitions. -/
  common : CommonTable
  /-- The containers of the messages, in order. -/
  containers : List ContainerSpec

/-- What can be wrong with the text of a schema. -/
inductive LoadError where
  /-- It is not JSON, or an entry does not have the right shape. -/
  | json (e : Json.Error)
  /-- A common definition lacks an attribute. -/
  | schema (e : SchemaError)

/-! ### Kinds of entries -/

/-- The entry has a reference for others to use and describes no containers. -/
def Json.isDefinition (entry : Json) : Bool :=
  entry.hasKey "common-ref" && !entry.hasKey "input" && !entry.hasKey "output"

/-- The type that the entry gives, if that is a text. -/
def Json.entryType (entry : Json) : Option String := (entry.get? "type").bind Json.text?

/-! ### Definitions -/

/-- The reference and the field that an entry defines. -/
def FieldEntry.definition (e : FieldEntry) : Except SchemaError (String × Field) :=
  let reference := e.reference.getD ""
  ((reference, ·) <$> e.toField).mapError (.incompleteDefinition reference)

/-! ### Messages -/

/-- The containers of a message or an indication. -/
def MessageEntry.containers (m : MessageEntry) : Logged (List ContainerSpec) := do
  let output : ContainerSpec := ⟨m.fullName, .output, m.output⟩
  if m.type = "Message" then pure [⟨m.fullName, .input, m.input⟩, output]
  else
    if m.input.isSome then Logged.event (.ignoredInput m.fullName)
    pure [output]

namespace Schema

/-- The schema without entries. -/
def empty : Schema := ⟨.empty, []⟩

variable (s : Schema)

/-! ### Loading -/

/-- A result of reading a value as a step of loading. -/
def ofMismatch {α : Type} (result : Except Json.Mismatch α) : ExceptT LoadError Logged α :=
  ExceptT.mk (pure (result.mapError fun m => .json (.ofMismatch m)))

/-- The schema with one more common definition, unless its reference is taken. -/
def addDefinition (entry : Json) : ExceptT LoadError Logged Schema := do
  if entry.entryType ≠ some "TLV" then
    Logged.event (.skippedDefinition entry.entryType)
    pure s
  else
    let field ← ofMismatch (FieldEntry.ofJson entry)
    let (reference, field) ← ExceptT.mk (pure (field.definition.mapError LoadError.schema))
    if (s.common.get? reference).isSome then
      Logged.event (.duplicateDefinition reference)
      pure s
    else pure { s with common := s.common.insert reference field }

/-- The schema with the containers of one more message. -/
def addMessage (entry : Json) : ExceptT LoadError Logged Schema := do
  if entry.entryType = some "Message" ∨ entry.entryType = some "Indication" then
    let message ← ofMismatch (MessageEntry.ofJson entry)
    let containers ← message.containers
    pure { s with containers := s.containers ++ containers }
  else
    Logged.event (.skippedEntry entry.entryType)
    pure s

/-- The schema with one more entry. -/
def addEntry (entry : Json) : ExceptT LoadError Logged Schema :=
  if entry.isDefinition then s.addDefinition entry else s.addMessage entry

/-- The schema of several entries. -/
def ofEntries (entries : List Json) : ExceptT LoadError Logged Schema :=
  entries.foldlM addEntry empty

/-- The schema that a text stands for. -/
def load (text : String) : ExceptT LoadError Logged Schema :=
  match Json.parseArray text with
  | .ok entries => ofEntries entries
  | .error e => ExceptT.mk (pure (.error (.json e)))

end Schema

end TlvSchema
