import TlvSchema.FieldType.OfShape
import TlvSchema.Identifier

/-!
# Models of containers

The model of a container says what a program that handles it needs to know: the type of every field,
the names of its type, constants and functions, and the operations that it has.

* `FieldModel`, `Model` — the model
* `Operation` — the operations of a container
* `Model.build` — the model of a list of fields
* `Model.operations`, `Model.operationName` — the operations and their function names
-/

namespace TlvSchema

/-- An operation of a container; fields are known by their index. -/
inductive Operation where
  /-- Make a container. -/
  | create
  /-- Take a further reference. -/
  | retain
  /-- Give a reference back. -/
  | release
  /-- Read a field. -/
  | get (index : Nat)
  /-- Write a field. -/
  | set (index : Nat)
deriving DecidableEq, Repr

/-- Whether the operation is one on the container as a whole. -/
def Operation.isLifecycle : Operation → Bool
  | .create | .retain | .release => true
  | .get _ | .set _ => false

/-- What is to be known of a field. -/
structure FieldModel where
  /-- The name. -/
  name : String
  /-- The wire tag. -/
  tag : WireTag
  /-- The name of the constant for the tag. -/
  symbol : String
  /-- The name of the format. -/
  format : String
  /-- The type of its values. -/
  type : FieldType
  /-- The field that this one depends on. -/
  prerequisite : Option String
  /-- The name of the function that reads the field. -/
  getter : String
  /-- The name of the function that writes the field, if there is one. -/
  setter : Option String
deriving Repr, BEq

namespace FieldModel

variable (f : FieldModel)

/-- Whether the values of the field own storage. -/
def storage : FieldType.Storage := f.type.storage

/-- The field reports how an operation went. -/
def isResult : Bool := f.format == "struct" && f.name == "Result"

end FieldModel

/-- What is to be known of a container. -/
structure Model where
  /-- The name of the container, such as `Msg A Input`. -/
  fullName : String
  /-- The direction. -/
  direction : Direction
  /-- The fields; a container without a list of fields has only its count of references. -/
  declared : Option (List FieldModel)
deriving Repr, BEq

namespace Model

variable (m : Model)

/-! ### Parts of a model -/

/-- The container is only read. -/
def isReadOnly : Bool := m.direction = .output

/-- The name of the container's type, such as `MsgAInput`. -/
def typeName : String := Identifier.camel m.fullName

/-- What the names of the container's functions begin with, such as `msg_a_input`. -/
def functionStem : String := Identifier.snake m.fullName

/-- The container has a list of fields, which may be empty. -/
def hasFields : Bool := m.declared.isSome

/-- The fields in order. -/
def fields : List FieldModel := m.declared.getD []

/-- The index of the field with a name.  In a model that is built, it is what a table finds that is filled
field by field. -/
def fieldIndex? (name : String) : Option Nat := m.fields.findIdx? (·.name = name)

/-- The field with a name. -/
def field? (name : String) : Option FieldModel := m.fields.find? (·.name = name)

/-- The constants for the wire tags. -/
def wireTags : List (String × WireTag) := m.fields.map fun f => (f.symbol, f.tag)

/-- The fields whose values own storage. -/
def ownedFields : List FieldModel := m.fields.filter (·.storage = .owned)

/-! ### Operations -/

/-- The operations that the container has as a whole. -/
def lifecycle : List Operation :=
  (if m.direction = .input then [.create] else []) ++ [.retain, .release]

/-- The operations on the field with an index. -/
def fieldOperations (index : Nat) : List Operation :=
  .get index :: if m.direction = .input then [.set index] else []

/-- The operations of the container. -/
def operations : List Operation :=
  m.lifecycle ++ (List.range m.fields.length).flatMap m.fieldOperations

/-- The name of the function for an operation, if the container has that operation. -/
def operationName : Operation → Option String
  | .create => if m.isReadOnly then none else some (m.functionStem ++ "_new")
  | .retain => some (m.functionStem ++ "_ref")
  | .release => some (m.functionStem ++ "_unref")
  | .get index => m.fields[index]?.map (·.getter)
  | .set index => m.fields[index]?.bind (·.setter)

/-! ### Building a model -/

end Model

/-- The model of a field of a container. -/
def Field.model (container : String) (direction : Direction) (f : Field) :
    Except SchemaError FieldModel := do
  let type ← f.shape.type? container f.name
  if !Identifier.hasWords f.name then .error (.invalidName container f.name)
  else
    let stem := Identifier.snake container
    let suffix := Identifier.snake f.name
    pure
      { name := f.name
        tag := f.tag
        symbol := Identifier.wireTagSymbol container f.name
        format := f.format
        type
        prerequisite := f.prerequisite
        getter := stem ++ "_get_" ++ suffix
        setter := if direction = .input then some (stem ++ "_set_" ++ suffix) else none }

namespace Model

/-- The first of the fields that has the symbol of an earlier one. -/
def collision? (container : String) :
    (earlier : List FieldModel) → List FieldModel → Option SchemaError
  | _, [] => none
  | earlier, f :: fs =>
    match earlier.find? (·.symbol = f.symbol) with
    | some first => some (.symbolCollision container first.name f.name f.symbol)
    | none => collision? container (earlier ++ [f]) fs

/-- The models of the fields of a container, which have pairwise different symbols. -/
def fieldModels (container : String) (direction : Direction) (fields : List Field) :
    Except SchemaError (List FieldModel) := do
  let models ← fields.mapM (·.model container direction)
  match collision? container [] models with
  | some e => .error e
  | none => pure models

/-- The model of the container with a name, a direction and fields in order. -/
def build (fullName : String) (direction : Direction) :
    Option (List Field) → Except SchemaError Model
  | none => .ok ⟨fullName, direction, none⟩
  | some fields => do
    let models ← fieldModels fullName direction fields
    pure ⟨fullName, direction, some models⟩

end Model

end TlvSchema
