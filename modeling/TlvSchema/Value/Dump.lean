import TlvSchema.Number.Shortest
import TlvSchema.Text.Quoted
import TlvSchema.Value

/-!
# Dumps

A dump shows a value with all its parts, for looking at it while searching a mistake.  It is written
on one line, or over several lines with every part on a line of its own.

* `Dump` — what is shown: leaves, calls with arguments, lists and records
* `Dump.line`, `Dump.spread` — the two ways to write it
* `Value.dump` — the dump of a value
-/

namespace TlvSchema

/-! ### Dumps -/

/-- What is shown of a value. -/
inductive Dump where
  /-- A text that stands for itself. -/
  | leaf (text : String)
  /-- A name with an argument. -/
  | call (name : String) (argument : Dump)
  /-- A list. -/
  | list (items : List Dump)
  /-- A name with named parts. -/
  | record (name : String) (parts : List (String × Dump))

namespace Dump

mutual

/-- The dump on one line. -/
def line : Dump → String
  | .leaf text => text
  | .call name argument => name ++ "(" ++ argument.line ++ ")"
  | .list items => "[" ++ itemsLine items ++ "]"
  | .record name parts => name ++ " \x7b " ++ partsLine parts ++ " \x7d"

/-- The items of a list on one line. -/
def itemsLine : List Dump → String
  | [] => ""
  | [d] => d.line
  | d :: ds => d.line ++ ", " ++ itemsLine ds

/-- The parts of a record on one line. -/
def partsLine : List (String × Dump) → String
  | [] => ""
  | [(name, d)] => name ++ ": " ++ d.line
  | (name, d) :: ds => name ++ ": " ++ d.line ++ ", " ++ partsLine ds

end

/-- The columns by which the parts of a dump are indented. -/
def indentation : Nat := 4

/-- The start of a line that is indented so deep. -/
def margin (depth : Nat) : String := String.ofList (List.replicate (indentation * depth) ' ')

mutual

/-- The dump over several lines, inside so many others. -/
def spreadAt (depth : Nat) : Dump → String
  | .leaf text => text
  | .call name argument =>
    name ++ "(\n" ++ margin (depth + 1) ++ argument.spreadAt (depth + 1) ++ ",\n" ++
      margin depth ++ ")"
  | .list [] => "[]"
  | .list items => "[\n" ++ itemsSpread (depth + 1) items ++ margin depth ++ "]"
  | .record name parts =>
    name ++ " \x7b\n" ++ partsSpread (depth + 1) parts ++ margin depth ++ "\x7d"

/-- The items of a list, each on its lines. -/
def itemsSpread (depth : Nat) : List Dump → String
  | [] => ""
  | d :: ds => margin depth ++ d.spreadAt depth ++ ",\n" ++ itemsSpread depth ds

/-- The parts of a record, each on its lines. -/
def partsSpread (depth : Nat) : List (String × Dump) → String
  | [] => ""
  | (name, d) :: ds =>
    margin depth ++ name ++ ": " ++ d.spreadAt depth ++ ",\n" ++ partsSpread depth ds

end

/-- The dump over several lines. -/
def spread (d : Dump) : String := d.spreadAt 0

end Dump

/-! ### Values -/

namespace Value

/-- In dumps numbers are written out from `0.0001` up to below `10 ^ 16`. -/
def dumpStyle : DecimalStyle := ⟨-4, 16, false, .up⟩

/-- An integer in a dump. -/
def dumpInteger (kind : String) (n : Int) : Dump := .call kind (.leaf (toString n))

mutual

/-- The dump of a value. -/
def dump : Value → Dump
  | .u8 n => dumpInteger "U8" n.toNat
  | .u16 n => dumpInteger "U16" n.toNat
  | .u32 n => dumpInteger "U32" n.toNat
  | .u64 n => dumpInteger "U64" n.toNat
  | .i8 n => dumpInteger "I8" n.toInt
  | .i16 n => dumpInteger "I16" n.toInt
  | .i32 n => dumpInteger "I32" n.toInt
  | .i64 n => dumpInteger "I64" n.toInt
  | .bool b => .call "Bool" (.leaf (toString b))
  | .f32 x => .call "F32" (.leaf (BinaryFormat.single.display dumpStyle x.bits.toNat))
  | .f64 x => .call "F64" (.leaf (BinaryFormat.double.display dumpStyle x.bits.toNat))
  | .string text => .call "String" (.leaf (Text.quote text))
  | .array elements => .call "Array" (.list (dumps elements))
  | .struct members => .call "Struct" (.list (dumps members))

/-- The dumps of several values. -/
def dumps : List Value → List Dump
  | [] => []
  | value :: values => value.dump :: dumps values

end

end Value

end TlvSchema
