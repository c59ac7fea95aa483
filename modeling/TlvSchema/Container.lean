import TlvSchema.Model
import TlvSchema.Value.Dump

/-!
# Containers

A container holds a slot for each field of its model and counts the references to it.  Input
containers are made empty and filled field by field as long as nobody shares them; output containers
are made of decoded values and then only read.

* `Container` — a container
* `UsageError` — what a user of containers can do wrong
* `Container.create`, `Container.decode` — making containers
* `Container.set`, `Container.get` — writing and reading fields
* `Container.clear` — releasing all fields
* `Container.dump` — a container with all its parts
-/

namespace TlvSchema

/-! ### Misuse -/

/-- What a user of containers can do wrong. -/
inductive UsageError where
  /-- The container has no field of the name. -/
  | unknownField (container field : String)
  /-- The value does not have the type of the field. -/
  | typeMismatch (container field expected : String)
  /-- The container cannot be written while it is shared. -/
  | shared (container : String) (count : Nat)
  /-- The model is for containers of the other direction. -/
  | wrongDirection (container : String) (expected found : Direction)
deriving DecidableEq, Repr

/-- What was wrong, in words. -/
def UsageError.message : UsageError → String
  | .unknownField container field => "`" ++ container ++ "` has no field named `" ++ field ++ "`"
  | .typeMismatch container field expected =>
    "value for `" ++ field ++ "` in `" ++ container ++ "` does not have type " ++ expected
  | .shared container count =>
    "`" ++ container ++ "` is shared by " ++ toString count ++
      " references and cannot be modified"
  | .wrongDirection container expected found =>
    "`" ++ container ++ "` is an " ++ found.name ++ " container, expected " ++ expected.name

/-! ### Slots -/

namespace Model

variable (m : Model)

/-- The slots of a container in which no field is present. -/
def emptySlots : List (Option Value) := m.fields.map fun _ => none

/-- The index and the model of the field with a name. -/
def lookup (name : String) : Except UsageError (Nat × FieldModel) :=
  match m.fieldIndex? name, m.field? name with
  | some index, some field => .ok (index, field)
  | _, _ => .error (.unknownField m.fullName name)

/-- The slots after a value has been put into the slot of a field. -/
def place (slots : List (Option Value)) (name : String) (value : Value) :
    Except UsageError (List (Option Value)) := do
  let (index, field) ← m.lookup name
  if value.hasType field.type then pure (slots.set index (some value))
  else .error (.typeMismatch m.fullName field.name field.type.display)

/-- The slots after several values have been put into them, one after the other. -/
def placeAll (slots : List (Option Value)) :
    List (String × Value) → Except UsageError (List (Option Value))
  | [] => .ok slots
  | (name, value) :: values => do
    let slots ← m.place slots name value
    placeAll slots values

/-- The model must be for containers of a direction. -/
def checkDirection (expected : Direction) : Except UsageError Unit :=
  if m.direction = expected then .ok ()
  else .error (.wrongDirection m.fullName expected m.direction)

end Model

/-! ### Containers -/

/-- A slot for each field of a model, and a count of references. -/
structure Container where
  /-- The model. -/
  model : Model
  /-- The number of references to the container. -/
  count : Nat
  /-- The values of the fields that are present. -/
  slots : List (Option Value)

namespace Container

/-- A container with one reference and no field present. -/
def create (model : Model) : Except UsageError Container := do
  model.checkDirection .input
  pure ⟨model, 1, model.emptySlots⟩

/-- A container with one reference and the decoded values; of two values for one field the last one
counts. -/
def decode (model : Model) (values : List (String × Value)) : Except UsageError Container := do
  model.checkDirection .output
  let slots ← model.placeAll model.emptySlots values
  pure ⟨model, 1, slots⟩

variable (c : Container)

/-- The container after a field has been written; it must not be shared. -/
def set (name : String) (value : Value) : Except UsageError Container := do
  let slots ← c.model.place c.slots name value
  if c.count = 1 then pure { c with slots }
  else .error (.shared c.model.fullName c.count)

/-- The value of a field, if it is present. -/
def get (name : String) : Except UsageError (Option Value) := do
  let (index, _) ← c.model.lookup name
  pure (c.slots[index]?.join)

/-- Whether a field is present, and its value or the default of its type. -/
def getOrDefault (name : String) : Except UsageError (Bool × Value) := do
  let (index, field) ← c.model.lookup name
  match c.slots[index]?.join with
  | some value => pure (true, value)
  | none => pure (false, Value.default field.type)

/-- Whether a field is present. -/
def isPresent (name : String) : Except UsageError Bool := Option.isSome <$> c.get name

/-- Empty slots one after the other; how many values have been released by then, with those before. -/
def clearSlots (released : Nat) : List (Option Value) → List (Option Value) × Nat
  | [] => ([], released)
  | slot :: slots =>
    let later := clearSlots (match slot with | some _ => released + 1 | none => released) slots
    (none :: later.1, later.2)

/-- The container with all its slots empty, and how many values have been released for that. -/
def clear : Container × Nat :=
  let cleared := clearSlots 0 c.slots
  ({ c with slots := cleared.1 }, cleared.2)

/-- A slot in a dump. -/
def dumpSlot : Option Value → Dump
  | none => .leaf "Absent"
  | some value => .call "Present" value.dump

/-- The container with all its parts. -/
def dump : Dump :=
  .record "Container"
    [("name", .leaf (Text.quote c.model.fullName)), ("ref_count", .leaf (toString c.count)),
     ("slots", .list (c.slots.map dumpSlot))]

end Container

end TlvSchema
