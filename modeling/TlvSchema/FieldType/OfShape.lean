import TlvSchema.Field
import TlvSchema.SchemaError

/-!
# The type of a shape

A format with its contents or element determines the type of the values.  A part of a shape that is
at fault is named by its path: the name of the field, then `[]` for the element of an array, and a
point and a name for a member.

* `Member.type?` — the type of a shape, or the first defect in it
-/

namespace TlvSchema.Member

mutual

/-- The type of the shape at a path, or its first defect; a shape is looked at before its parts. -/
def type? (container path : String) : Member → Except SchemaError FieldType
  | ⟨_, format, contents, element⟩ =>
    match Format.ofName? format with
    | none => .error (.unknownFormat container path format)
    | some (.scalar kind) => .ok (.scalar kind)
    | some .string => .ok .string
    | some .array => match element with
      | none => .error (.missingElement container path)
      | some element => .array <$> element.type? container (path ++ "[]")
    | some .compound => match contents with
      | [] => .error (.emptyCompound container path format)
      | member :: members => .struct <$> types? container path (member :: members)

/-- The types of the members of the shape at a path, or the first defect in them. -/
def types? (container path : String) : List Member → Except SchemaError (List (String × FieldType))
  | [] => .ok []
  | member :: members => do
    let type ← member.type? container (path ++ "." ++ member.name)
    let types ← types? container path members
    pure ((member.name, type) :: types)

end

end TlvSchema.Member
