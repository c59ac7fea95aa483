/-!
# Types of fields

* `Scalar`, `FieldType` — the shapes of values
* `FieldType.display` — a type as text
* `FieldType.storage` — whether the values of a type own storage
* `Format` — the formats that a schema may name
-/

namespace TlvSchema

/-! ### Types -/

/-- The types whose values have a fixed size. -/
inductive Scalar where
  | u8 | u16 | u32 | u64 | i8 | i16 | i32 | i64 | bool | f32 | f64
deriving DecidableEq, Repr, Inhabited

/-- The name of the type. -/
def Scalar.display : Scalar → String
  | .u8 => "u8"
  | .u16 => "u16"
  | .u32 => "u32"
  | .u64 => "u64"
  | .i8 => "i8"
  | .i16 => "i16"
  | .i32 => "i32"
  | .i64 => "i64"
  | .bool => "bool"
  | .f32 => "f32"
  | .f64 => "f64"

/-- The shape of the values of a field. -/
inductive FieldType where
  /-- A value of fixed size. -/
  | scalar (kind : Scalar)
  /-- A text. -/
  | string
  /-- Any number of values of one type. -/
  | array (element : FieldType)
  /-- A value for each of several members. -/
  | struct (members : List (String × FieldType))
deriving Repr, Inhabited, BEq

namespace FieldType

mutual

/-- The type as text. -/
def display : FieldType → String
  | .scalar kind => kind.display
  | .string => "string"
  | .array element => "array<" ++ element.display ++ ">"
  | .struct members => "struct \x7b " ++ displayMembers members ++ " \x7d"

/-- The members of a struct as text. -/
def displayMembers : List (String × FieldType) → String
  | [] => ""
  | [(name, type)] => name ++ ": " ++ type.display
  | (name, type) :: members =>
    name ++ ": " ++ type.display ++ ", " ++ displayMembers members

end

/-! ### Storage -/

/-- Whether a value owns storage that has to be released with it. -/
inductive Storage where
  /-- The value lies in the container. -/
  | inline
  /-- The value owns storage of its own. -/
  | owned
deriving DecidableEq, Repr

/-- The name of the kind of storage. -/
def Storage.name : Storage → String
  | .inline => "Inline"
  | .owned => "Owned"

mutual

/-- Texts and arrays own storage, and so does a struct with a member that does. -/
def storage : FieldType → Storage
  | .scalar _ => .inline
  | .string => .owned
  | .array _ => .owned
  | .struct members => membersStorage members

/-- The members own storage if one of them does. -/
def membersStorage : List (String × FieldType) → Storage
  | [] => .inline
  | (_, type) :: members => if type.storage = .owned then .owned else membersStorage members

end

end FieldType

/-! ### Formats -/

/-- What a format stands for. -/
inductive Format where
  /-- A value of fixed size. -/
  | scalar (kind : Scalar)
  /-- A text. -/
  | string
  /-- An array of the field's element. -/
  | array
  /-- A struct of the field's contents. -/
  | compound
deriving DecidableEq, Repr

namespace Format

/-- The names of the formats, as they are shown to the author of a schema. -/
def names : List String :=
  ["guint8", "guint16", "guint32", "guint64", "gint8", "gint16", "gint32", "gint64", "guint-sized",
    "gboolean", "gfloat", "gdouble", "string", "array", "struct", "sequence"]

/-- The format with a name. -/
def ofName? : String → Option Format
  | "guint8" => some (.scalar .u8)
  | "guint16" => some (.scalar .u16)
  | "guint32" => some (.scalar .u32)
  | "guint64" | "guint-sized" => some (.scalar .u64)
  | "gint8" => some (.scalar .i8)
  | "gint16" => some (.scalar .i16)
  | "gint32" => some (.scalar .i32)
  | "gint64" => some (.scalar .i64)
  | "gboolean" => some (.scalar .bool)
  | "gfloat" => some (.scalar .f32)
  | "gdouble" => some (.scalar .f64)
  | "string" => some .string
  | "array" => some .array
  | "struct" | "sequence" => some .compound
  | _ => none

end Format

end TlvSchema
