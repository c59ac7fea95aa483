import TlvSchema.Text.Blank

/-!
# Wire tags

A wire tag is the number that identifies a field on the wire.  It is written in decimal or, after
`0x`, in hexadecimal, and shown with at least two hexadecimal digits.

* `WireTag` — a number of 32 bits
* `WireTag.parse?`, `WireTag.read` — reading a tag
* `WireTag.display` — showing a tag
-/

namespace TlvSchema

/-- The number that identifies a field on the wire. -/
structure WireTag where
  /-- The number itself. -/
  code : UInt32
deriving DecidableEq, Repr, Inhabited

namespace WireTag

/-! ### Numerals -/

/-- The value of a digit in a base up to sixteen; letters count in either case. -/
def digitValue? (base : Nat) (c : Char) : Option Nat :=
  let value? : Option Nat :=
    if '0' ≤ c ∧ c ≤ '9' then some (c.toNat - '0'.toNat)
    else if 'a' ≤ c ∧ c ≤ 'f' then some (c.toNat - 'a'.toNat + 10)
    else if 'A' ≤ c ∧ c ≤ 'F' then some (c.toNat - 'A'.toNat + 10)
    else none
  value?.filter (· < base)

/-- The number that a row of digits denotes, read on from `value`. -/
def digitsValue? (base : Nat) : Nat → List Char → Option Nat
  | value, [] => some value
  | value, c :: cs => do
    let digit ← digitValue? base c
    digitsValue? base (value * base + digit) cs

/-- The numeral without the plus sign that may stand in front of it. -/
def dropPlus : List Char → List Char
  | '+' :: cs => cs
  | cs => cs

/-- The number that a numeral denotes: at least one digit, after a plus sign or not. -/
def numeral? (base : Nat) (cs : List Char) : Option Nat :=
  match dropPlus cs with
  | [] => none
  | c :: cs => digitsValue? base 0 (c :: cs)

/-! ### Reading -/

/-- The number that a trimmed text denotes, of any size. -/
def number? : List Char → Option Nat
  | '0' :: 'x' :: cs => numeral? 16 cs
  | '0' :: 'X' :: cs => numeral? 16 cs
  | cs => numeral? 10 cs

/-- The tag with a given number, if that has at most 32 bits. -/
def ofNat? (n : Nat) : Option WireTag :=
  if n < UInt32.size then some ⟨UInt32.ofNat n⟩ else none

/-- Read a tag, with or without white space around it. -/
def parse? (text : String) : Option WireTag :=
  (number? (Text.trim text.toList)).bind ofNat?

/-- A text that is not a tag. -/
structure ParseError where
  /-- The text. -/
  text : String
deriving DecidableEq, Repr

/-- What is wrong with the text, in words. -/
def ParseError.message (e : ParseError) : String := "invalid wire tag `" ++ e.text ++ "`"

/-- Read a tag; a text that is none is refused. -/
def read (text : String) : Except ParseError WireTag :=
  match parse? text with
  | some tag => .ok tag
  | none => .error ⟨text⟩

/-! ### Showing -/

/-- The hexadecimal digit for a value below sixteen, in upper case. -/
def hexDigit (value : Nat) : Char :=
  if value < 10 then Char.ofNat ('0'.toNat + value) else Char.ofNat ('A'.toNat + (value - 10))

/-- The hexadecimal digits of a number, at least one. -/
def hexDigits (n : Nat) : List Char :=
  if n < 16 then [hexDigit n] else hexDigits (n / 16) ++ [hexDigit (n % 16)]

/-- The hexadecimal digits of a number, at least two. -/
def pairedHexDigits (n : Nat) : List Char :=
  if n < 16 then ['0', hexDigit n] else hexDigits n

/-- The tag in hexadecimal, such as `0x0A`. -/
def display (tag : WireTag) : String :=
  String.ofList ('0' :: 'x' :: pairedHexDigits tag.code.toNat)

end WireTag

end TlvSchema
