import TlvSchema.Diagnostic
import TlvSchema.Field
import TlvSchema.FieldType.Basic

/-!
# Defects of schemas

What makes a container or a common definition unusable.

* `SchemaError` — the defects, each with the names that its message needs
* `SchemaError.message`, `SchemaError.container` — what is wrong, and where
* `SchemaError.diagnostic` — the report for the author of the schema
-/

namespace TlvSchema

/-- A defect of a container, or of a common definition. -/
inductive SchemaError where
  /-- An entry refers to a common definition that does not exist. -/
  | unknownReference (container field reference : String) (suggestion : Option String)
  /-- An entry lacks an attribute. -/
  | missingAttribute (container field : String) (missing : Attribute)
  /-- A common definition lacks an attribute. -/
  | incompleteDefinition (reference : String) (missing : Attribute)
  /-- A name has no words. -/
  | invalidName (container field : String)
  /-- Two fields have one name. -/
  | duplicateField (container field : String)
  /-- Two fields have one wire tag. -/
  | duplicateTag (container first second : String) (tag : WireTag)
  /-- A field depends on itself, or on a field that does not exist. -/
  | unknownPrerequisite (container field prerequisite : String)
  /-- A format does not exist. -/
  | unknownFormat (container field format : String)
  /-- A struct or sequence has no contents. -/
  | emptyCompound (container field format : String)
  /-- An array has no element. -/
  | missingElement (container field : String)
  /-- The wire tags of two fields get one symbol. -/
  | symbolCollision (container first second symbol : String)
deriving DecidableEq, Repr

namespace SchemaError

/-- The text between back quotes. -/
def ticked (text : String) : String := "`" ++ text ++ "`"

/-- What is wrong. -/
def message : SchemaError → String
  | .unknownReference _ _ reference _ => "common definition " ++ ticked reference ++ " not found"
  | .missingAttribute _ field missing =>
    "field " ++ ticked field ++ " is missing the " ++ ticked missing.text ++ " attribute"
  | .incompleteDefinition reference missing =>
    "common definition " ++ ticked reference ++ " is missing the " ++ ticked missing.text ++
      " attribute"
  | .invalidName _ field => "field name " ++ ticked field ++ " has no letters or digits"
  | .duplicateField _ field => "field " ++ ticked field ++ " is defined more than once"
  | .duplicateTag _ first second tag =>
    "fields " ++ ticked first ++ " and " ++ ticked second ++ " share the wire tag " ++ tag.display
  | .unknownPrerequisite _ field prerequisite =>
    "field " ++ ticked field ++ " requires unknown field " ++ ticked prerequisite
  | .unknownFormat _ field format =>
    "field " ++ ticked field ++ " has unknown format " ++ ticked format
  | .emptyCompound _ field format =>
    "field " ++ ticked field ++ " has format " ++ ticked format ++ " but no contents"
  | .missingElement _ field => "array field " ++ ticked field ++ " has no element"
  | .symbolCollision _ first second symbol =>
    "fields " ++ ticked first ++ " and " ++ ticked second ++ " both map to the symbol " ++
      ticked symbol

/-- The full name of the container that has the defect, or what stands in its place for a common
definition. -/
def container : SchemaError → String
  | .unknownReference c _ _ _ => c
  | .missingAttribute c _ _ => c
  | .incompleteDefinition _ _ => "common definitions"
  | .invalidName c _ => c
  | .duplicateField c _ => c
  | .duplicateTag c _ _ _ => c
  | .unknownPrerequisite c _ _ => c
  | .unknownFormat c _ _ => c
  | .emptyCompound c _ _ => c
  | .missingElement c _ => c
  | .symbolCollision c _ _ _ => c

/-- The note that says in which container the defect is. -/
def place (e : SchemaError) : String := "in container " ++ ticked e.container

/-- What the report says after the message. -/
def notes (e : SchemaError) : List String :=
  match e with
  | .unknownReference _ field _ suggestion =>
    [e.place, "referenced by field " ++ ticked field] ++
      (suggestion.map fun name =>
        "help: a common definition with a similar name exists: " ++ ticked name).toList
  | .incompleteDefinition _ _ => ["common definitions must specify `name`, `id` and `format`"]
  | .invalidName _ _ =>
    [e.place, "wire tag symbols and accessor names are derived from the ASCII letters and " ++
      "digits of the field name"]
  | .duplicateTag _ _ _ tag =>
    [e.place, "wire tag " ++ tag.display ++ " must identify exactly one field"]
  | .unknownPrerequisite _ field prerequisite =>
    if field = prerequisite then [e.place, "a field cannot be its own prerequisite"]
    else [e.place]
  | .unknownFormat _ _ _ =>
    [e.place, "expected one of " ++ String.intercalate ", " Format.names]
  | .missingAttribute _ _ _ | .duplicateField _ _ | .emptyCompound _ _ _ | .missingElement _ _
  | .symbolCollision _ _ _ _ => [e.place]

/-- The report for the author of the schema. -/
def diagnostic (e : SchemaError) : Diagnostic := ⟨.error, e.message, e.notes, none⟩

end SchemaError

end TlvSchema
