import TlvSchema.FieldType.Basic
import TlvSchema.Number.Binary

/-!
# Values of fields

* `Value` — the values
* `Value.equal` — equality, in which floating-point numbers count as numbers
* `Value.default` — the value of a field that is not present
* `Value.hasType` — which values fit a type
-/

namespace TlvSchema

/-- A value of a field. -/
inductive Value where
  | u8 (n : UInt8)
  | u16 (n : UInt16)
  | u32 (n : UInt32)
  | u64 (n : UInt64)
  | i8 (n : Int8)
  | i16 (n : Int16)
  | i32 (n : Int32)
  | i64 (n : Int64)
  | bool (b : Bool)
  | f32 (x : Binary32)
  | f64 (x : Binary64)
  | string (text : String)
  | array (elements : List Value)
  /-- The values of the members, in their order. -/
  | struct (members : List Value)
deriving Repr, Inhabited

namespace Value

/-! ### Equality -/

mutual

/-- The values are equal: of one kind, with equal parts, and with floating-point numbers that are
equal as numbers. -/
def equal : Value → Value → Bool
  | .u8 a, .u8 b => a = b
  | .u16 a, .u16 b => a = b
  | .u32 a, .u32 b => a = b
  | .u64 a, .u64 b => a = b
  | .i8 a, .i8 b => a = b
  | .i16 a, .i16 b => a = b
  | .i32 a, .i32 b => a = b
  | .i64 a, .i64 b => a = b
  | .bool a, .bool b => a = b
  | .f32 a, .f32 b => a.equal b
  | .f64 a, .f64 b => a.equal b
  | .string a, .string b => a = b
  | .array as, .array bs => listEqual as bs
  | .struct as, .struct bs => listEqual as bs
  | _, _ => false

/-- The lists have equal values at the same places. -/
def listEqual : List Value → List Value → Bool
  | [], [] => true
  | a :: as, b :: bs => a.equal b && listEqual as bs
  | _, _ => false

end

/-! ### Defaults -/

/-- The zero of a type of fixed size. -/
def zero : Scalar → Value
  | .u8 => .u8 0
  | .u16 => .u16 0
  | .u32 => .u32 0
  | .u64 => .u64 0
  | .i8 => .i8 0
  | .i16 => .i16 0
  | .i32 => .i32 0
  | .i64 => .i64 0
  | .bool => .bool false
  | .f32 => .f32 ⟨0⟩
  | .f64 => .f64 ⟨0⟩

mutual

/-- What is read from a field that is not present. -/
def default : FieldType → Value
  | .scalar kind => zero kind
  | .string => .string ""
  | .array _ => .array []
  | .struct members => .struct (defaults members)

/-- What is read from the members of a struct that is not present. -/
def defaults : List (String × FieldType) → List Value
  | [] => []
  | (_, type) :: members => default type :: defaults members

end

/-! ### Types -/

/-- The value is of the type of fixed size. -/
def isScalar : Value → Scalar → Bool
  | .u8 _, .u8 | .u16 _, .u16 | .u32 _, .u32 | .u64 _, .u64 => true
  | .i8 _, .i8 | .i16 _, .i16 | .i32 _, .i32 | .i64 _, .i64 => true
  | .bool _, .bool | .f32 _, .f32 | .f64 _, .f64 => true
  | _, _ => false

mutual

/-- The value has the shape of the type. -/
def hasType : Value → FieldType → Bool
  | .array elements, .array type => allHaveType elements type
  | .struct values, .struct members => haveTypes values members
  | .string _, .string => true
  | value, .scalar kind => value.isScalar kind
  | _, _ => false

/-- All values have the type. -/
def allHaveType : List Value → FieldType → Bool
  | [], _ => true
  | value :: values, type => value.hasType type && allHaveType values type

/-- There is one value for each member, and it has the member's type. -/
def haveTypes : List Value → List (String × FieldType) → Bool
  | [], [] => true
  | value :: values, (_, type) :: members => value.hasType type && haveTypes values members
  | _, _ => false

end

end Value

end TlvSchema
