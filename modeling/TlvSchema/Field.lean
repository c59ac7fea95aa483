import TlvSchema.WireTag

/-!
# Fields and containers

* `Member` — the shape of a part of a compound field
* `Attribute` — the attributes that every field must have
* `FieldEntry` — a field as an author writes it, perhaps by reference to a common definition
* `Field` — a field with all its attributes
* `ContainerSpec` — the fields of one direction of a message
-/

namespace TlvSchema

/-! ### Fields -/

/-- A part of a compound field: a member of a struct or sequence, or the element of an array. -/
structure Member where
  /-- The name, which an element may lack. -/
  name : String
  /-- The name of the format. -/
  format : String
  /-- The members of a struct or sequence. -/
  contents : List Member
  /-- The element of an array. -/
  element : Option Member
deriving Repr, BEq, Inhabited

/-- A field as an author writes it.  An entry that refers to a common definition usually has no
more than a name and a prerequisite. -/
structure FieldEntry where
  /-- The name, which may be empty. -/
  name : String
  /-- The wire tag. -/
  tag : Option WireTag
  /-- The name of the format. -/
  format : Option String
  /-- The common definition that takes the place of the entry. -/
  reference : Option String
  /-- The name of the field that this one depends on. -/
  prerequisite : Option String
  /-- The members of a struct or sequence. -/
  contents : List Member
  /-- The element of an array. -/
  element : Option Member
deriving Repr, BEq, Inhabited

/-- A field with all its attributes. -/
structure Field where
  /-- The name. -/
  name : String
  /-- The wire tag. -/
  tag : WireTag
  /-- The name of the format. -/
  format : String
  /-- The name of the field that this one depends on. -/
  prerequisite : Option String
  /-- The members of a struct or sequence. -/
  contents : List Member
  /-- The element of an array. -/
  element : Option Member
deriving Repr, BEq, Inhabited

/-- The attributes that every field must have. -/
inductive Attribute where
  /-- The name. -/
  | name
  /-- The wire tag. -/
  | id
  /-- The format. -/
  | format
deriving DecidableEq, Repr

/-- The name of the attribute. -/
def Attribute.text : Attribute → String
  | .name => "name"
  | .id => "id"
  | .format => "format"

/-- The field that an entry describes by itself, or the first attribute that it lacks. -/
def FieldEntry.toField (e : FieldEntry) : Except Attribute Field :=
  if e.name.isEmpty then .error .name
  else match e.tag, e.format with
    | none, _ => .error .id
    | some _, none => .error .format
    | some tag, some format =>
      .ok ⟨e.name, tag, format, e.prerequisite, e.contents, e.element⟩

/-- The shape of the field's values. -/
def Field.shape (f : Field) : Member := ⟨f.name, f.format, f.contents, f.element⟩

/-! ### Containers -/

/-- Which way the fields of a container go. -/
inductive Direction where
  /-- The container is made and filled by its user. -/
  | input
  /-- The container is decoded from a message and only read. -/
  | output
deriving DecidableEq, Repr, Inhabited

/-- The direction as a part of names. -/
def Direction.name : Direction → String
  | .input => "Input"
  | .output => "Output"

/-- The fields of one direction of a message. -/
structure ContainerSpec where
  /-- The name of the message. -/
  message : String
  /-- The direction. -/
  direction : Direction
  /-- The fields; a container may have no list of fields at all. -/
  fields : Option (List FieldEntry)
deriving Repr, BEq, Inhabited

/-- The name of the message followed by the direction, such as `Msg A Input`. -/
def ContainerSpec.fullName (spec : ContainerSpec) : String :=
  spec.message ++ " " ++ spec.direction.name

end TlvSchema
