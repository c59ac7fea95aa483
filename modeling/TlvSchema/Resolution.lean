import TlvSchema.CommonTable
import TlvSchema.Identifier
import TlvSchema.SchemaError
import TlvSchema.Text.EditDistance

/-!
# Resolution

The entries of a container are replaced by fields: an entry that refers to a common definition by a
copy of that definition, with the prerequisite of the entry if it gives one.  The fields are then
checked for what later steps rely on: names with words, pairwise different names and wire tags, and
prerequisites that are other fields of the container.

* `FieldEntry.resolve` — the field of one entry
* `checkFields` — the check of a list of fields
* `resolveFields` — the fields of a list of entries
-/

namespace TlvSchema

/-! ### Single entries -/

/-- How messages call the entry at an index: by its name, or by its place if it has none. -/
def FieldEntry.label (e : FieldEntry) (index : Nat) : String :=
  if e.name.isEmpty then "#" ++ toString (index + 1) else e.name

/-- The copy of a definition that takes the place of an entry. -/
def Field.withPrerequisite (f : Field) (prerequisite : Option String) : Field :=
  { f with prerequisite := prerequisite.orElse fun _ => f.prerequisite }

/-- The field of the entry at an index. -/
def FieldEntry.resolve (container : String) (table : CommonTable) (index : Nat) (e : FieldEntry) :
    Except SchemaError Field :=
  match e.reference with
  | none => e.toField.mapError (.missingAttribute container (e.label index))
  | some reference => match table.get? reference with
    | some definition => .ok (definition.withPrerequisite e.prerequisite)
    | none => .error (.unknownReference container (e.label index) reference
        (Text.suggestion? reference table.references))

/-- The fields of the entries from an index on, or the first defect. -/
def resolveFrom (container : String) (table : CommonTable) (index : Nat) :
    List FieldEntry → Except SchemaError (List Field)
  | [] => .ok []
  | e :: es => do
    let field ← e.resolve container table index
    let fields ← resolveFrom container table (index + 1) es
    pure (field :: fields)

/-! ### Lists of fields -/

/-- What is wrong with a field that comes after others, apart from its prerequisite. -/
def Field.defect? (container : String) (earlier : List Field) (f : Field) : Option SchemaError :=
  if !Identifier.hasWords f.name then some (.invalidName container f.name)
  else if earlier.any (·.name = f.name) then some (.duplicateField container f.name)
  else (earlier.find? (·.tag = f.tag)).map fun first =>
    .duplicateTag container first.name f.name f.tag

/-- The first defect of fields that come after others, apart from their prerequisites. -/
def firstDefect? (container : String) : (earlier : List Field) → List Field → Option SchemaError
  | _, [] => none
  | earlier, f :: fs =>
    (f.defect? container earlier).or (firstDefect? container (earlier ++ [f]) fs)

/-- What is wrong with the prerequisite of a field. -/
def Field.prerequisiteDefect? (container : String) (fields : List Field) (f : Field) :
    Option SchemaError :=
  f.prerequisite.bind fun prerequisite =>
    if prerequisite = f.name ∨ !fields.any (·.name = prerequisite) then
      some (.unknownPrerequisite container f.name prerequisite)
    else none

/-- The first defect of the fields of a container. -/
def checkFields (container : String) (fields : List Field) : Except SchemaError Unit :=
  match (firstDefect? container [] fields).or
      (fields.findSome? (·.prerequisiteDefect? container fields)) with
  | some e => .error e
  | none => .ok ()

/-- The fields of the entries of a container, in the same order, or the first defect. -/
def resolveFields (container : String) (entries : List FieldEntry) (table : CommonTable) :
    Except SchemaError (List Field) := do
  let fields ← resolveFrom container table 0 entries
  checkFields container fields
  pure fields

end TlvSchema
