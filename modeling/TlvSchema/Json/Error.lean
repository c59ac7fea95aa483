import TlvSchema.Json
import TlvSchema.Number.Shortest
import TlvSchema.Text.Line
import TlvSchema.Text.Quoted
import TlvSchema.WireTag

/-!
# Errors of JSON texts

What can be wrong with a JSON text, and with a JSON value that should be a record.

* `Json.Mismatch` — a value that does not have the expected shape
* `Json.Fault` — everything that can be wrong with a text
* `Json.Error` — a fault and the place where it was found
-/

namespace TlvSchema.Json

/-! ### Values of the wrong shape -/

/-- Numbers in messages are written out from `0.00001` up to below `10 ^ 16`. -/
def numberStyle : DecimalStyle := ⟨-5, 16, true, .even⟩

/-- The text of a number that is not an integer. -/
def floatText (x : Binary64) : String := BinaryFormat.double.display numberStyle x.bits.toNat

/-- What a value is, in the words of a message. -/
def describe : Json → String
  | .null => "null"
  | .bool b => "boolean `" ++ toString b ++ "`"
  | .integer n => "integer `" ++ toString n ++ "`"
  | .float x => "floating point `" ++ floatText x ++ "`"
  | .string text => "string " ++ Text.quote text
  | .array _ => "sequence"
  | .object _ => "map"

/-- A value that does not have the shape asked for. -/
inductive Mismatch where
  /-- The value found is of another kind. -/
  | kind (found : Json) (expected : String)
  /-- An attribute that a record must have is not there. -/
  | missing (key : String)
  /-- A list of attributes ends too early. -/
  | tooShort (length : Nat) (record : String) (size : Nat)
  /-- A list of attributes goes on too long. -/
  | tooLong (length : Nat)
  /-- A tag is neither a number of 32 bits nor a text. -/
  | notATag
  /-- A text is not a tag. -/
  | invalidTag (text : String)
deriving Repr, BEq

/-- What the mismatch is, in words. -/
def Mismatch.message : Mismatch → String
  | .kind found expected => "invalid type: " ++ found.describe ++ ", expected " ++ expected
  | .missing key => "missing field `" ++ key ++ "`"
  | .tooShort length record size =>
    "invalid length " ++ toString length ++ ", expected " ++ record ++ " with " ++
      toString size ++ " elements"
  | .tooLong length =>
    "invalid length " ++ toString length ++ ", expected fewer elements in array"
  | .notATag => "data did not match any variant of untagged enum Repr"
  | .invalidTag text => (WireTag.ParseError.mk text).message

/-! ### Faults -/

/-- What can be wrong with a JSON text. -/
inductive Fault where
  /-- The text ends inside a list. -/
  | endInList
  /-- The text ends inside an object. -/
  | endInObject
  /-- The text ends inside a string. -/
  | endInString
  /-- The text ends where a value should stand. -/
  | endInValue
  /-- There is no colon after a key. -/
  | expectedColon
  /-- There is neither a comma nor the end of the list. -/
  | expectedListEnd
  /-- There is neither a comma nor the end of the object. -/
  | expectedObjectEnd
  /-- A word that begins like a literal is none. -/
  | expectedLiteral
  /-- No value begins here. -/
  | expectedValue
  /-- A backslash is followed by something that it does not escape. -/
  | invalidEscape
  /-- A number is not written as one. -/
  | invalidNumber
  /-- A number is too large. -/
  | numberOutOfRange
  /-- A control character stands in a string. -/
  | controlCharacter
  /-- A key is not a string. -/
  | keyNotString
  /-- A surrogate has no partner. -/
  | loneSurrogate
  /-- A comma is followed by the end of the list or object. -/
  | trailingComma
  /-- There is something after the value. -/
  | trailingCharacters
  /-- A first surrogate is not followed by an escape. -/
  | unfinishedSurrogate
  /-- Lists and objects lie too deep inside each other. -/
  | nestingLimit
  /-- The value does not have the shape asked for. -/
  | mismatch (m : Mismatch)
deriving Repr, BEq

/-- What the fault is, in words. -/
def Fault.message : Fault → String
  | .endInList => "EOF while parsing a list"
  | .endInObject => "EOF while parsing an object"
  | .endInString => "EOF while parsing a string"
  | .endInValue => "EOF while parsing a value"
  | .expectedColon => "expected `:`"
  | .expectedListEnd => "expected `,` or `]`"
  | .expectedObjectEnd => "expected `,` or `\x7d`"
  | .expectedLiteral => "expected ident"
  | .expectedValue => "expected value"
  | .invalidEscape => "invalid escape"
  | .invalidNumber => "invalid number"
  | .numberOutOfRange => "number out of range"
  | .controlCharacter => "control character (\\u0000-\\u001F) found while parsing a string"
  | .keyNotString => "key must be a string"
  | .loneSurrogate => "lone leading surrogate in hex escape"
  | .trailingComma => "trailing comma"
  | .trailingCharacters => "trailing characters"
  | .unfinishedSurrogate => "unexpected end of hex escape"
  | .nestingLimit => "recursion limit exceeded"
  | .mismatch m => m.message

/-- The kinds of faults. -/
inductive Category where
  /-- The text is not JSON. -/
  | syntactic
  /-- The text is JSON, but not of the shape asked for. -/
  | data
  /-- The text ends too early. -/
  | ended
deriving DecidableEq, Repr

/-- The kind of a fault. -/
def Fault.category : Fault → Category
  | .endInList | .endInObject | .endInString | .endInValue => .ended
  | .mismatch _ => .data
  | _ => .syntactic

/-! ### Errors -/

/-- A fault and, if it was found in a text, the place. -/
structure Error where
  /-- What is wrong. -/
  fault : Fault
  /-- Where the reader of the text stood. -/
  position : Option Text.Position
deriving Repr, BEq

/-- The error in words, with the place. -/
def Error.message (e : Error) : String :=
  match e.position with
  | none => e.fault.message
  | some p =>
    e.fault.message ++ " at line " ++ toString p.line ++ " column " ++ toString p.column

/-- The error of a value that was not read from a text. -/
def Error.ofMismatch (m : Mismatch) : Error := ⟨.mismatch m, none⟩

end TlvSchema.Json
