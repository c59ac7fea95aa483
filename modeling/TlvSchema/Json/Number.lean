import TlvSchema.Json

/-!
# Numbers in JSON texts

A number without fraction and exponent that has at most 64 bits is an integer; any other number is
rounded to 64 binary digits of floating point.  The rounding works on the longest row of leading
digits that has 64 bits and then scales by a power of ten.

* `Json.Numeral` — the digits of a number as they are written
* `Json.Numeral.value?` — its value
-/

namespace TlvSchema.Json

/-- The digits of a number as they are written. -/
structure Numeral where
  /-- There is a minus sign in front. -/
  negative : Bool
  /-- The digits before the point. -/
  whole : List Char
  /-- The digits after the point. -/
  fraction : List Char
  /-- The digits of the exponent and whether a minus sign stands before them. -/
  exponent : Option (Bool × List Char)
deriving DecidableEq, Repr

/-! ### Significand and exponent -/

/-- The value of a decimal digit. -/
def digitValue (c : Char) : Nat := c.toNat - '0'.toNat

/-- The value of a row of decimal digits, read on from `value`. -/
def digitsValue (value : Nat) (digits : List Char) : Nat :=
  digits.foldl (fun n c => 10 * n + digitValue c) value

/-- Read digits on from `value` as long as it has 64 bits; the digits that are left over. -/
def absorb (value : Nat) : List Char → Nat × List Char
  | [] => (value, [])
  | c :: cs =>
    let next := 10 * value + digitValue c
    if next < UInt64.size then absorb next cs else (value, c :: cs)

/-- The greatest exponent that is read; a greater one counts as infinite. -/
def exponentLimit : Nat := 2147483647

/-- How many digits of an exponent it takes, read on from `value`, to get above the limit. -/
def digitsToOverflow? (value : Nat) : List Char → Option Nat
  | [] => none
  | c :: cs =>
    let next := 10 * value + digitValue c
    if exponentLimit < next then some 1
    else (digitsToOverflow? next cs).map (· + 1)

namespace Numeral

variable (n : Numeral)

/-- The leading digits that have 64 bits, before and after the point. -/
def significand : Nat := (absorb (absorb 0 n.whole).1 n.fraction).1

/-- The power of ten that the last digit of the significand counts: digits left over before the
point raise it, digits read after the point lower it. -/
def scale : Int :=
  let left := absorb 0 n.whole
  let leftAfter := absorb left.1 n.fraction
  (left.2.length : Int) - (n.fraction.length - leftAfter.2.length : Nat)

/-- The number has no fraction, no exponent and at most 64 bits. -/
def isInteger : Bool :=
  n.fraction.isEmpty && n.exponent.isNone && (absorb 0 n.whole).2.isEmpty

/-! ### Rounding -/

/-- The power of ten; floating point has it up to the 308th. -/
def powerOfTen (exponent : Nat) : Float := Float.ofScientific 1 false exponent

/-- Divide by a power of ten. -/
def scaleDown (x : Float) (exponent : Nat) : Float :=
  if exponent ≤ 308 then x / powerOfTen exponent
  else if x == 0.0 then x
  else scaleDown (x / powerOfTen 308) (exponent - 308)
termination_by exponent

/-- The number `significand * 10 ^ exponent`, unless it is too large. -/
def scaled? (significand : Nat) (exponent : Int) : Option Float :=
  let x := (UInt64.ofNat significand).toFloat
  if exponent < 0 then some (scaleDown x (-exponent).toNat)
  else if 308 < exponent then if significand = 0 then some x else none
  else
    let y := x * powerOfTen exponent.toNat
    if y.isInf then none else some y

/-- The number without its sign as a floating-point number, unless it is too large. -/
def magnitude? : Option Float :=
  match n.exponent with
  | none => scaled? n.significand n.scale
  | some (negative, digits) =>
    if (digitsToOverflow? 0 digits).isSome then
      if n.significand = 0 ∨ negative then some 0.0 else none
    else
      let exponent : Int := digitsValue 0 digits
      scaled? n.significand (if negative then n.scale - exponent else n.scale + exponent)

/-- The floating-point number with the sign. -/
def signed (x : Float) : Json := .float ⟨(if n.negative then -x else x).toBits⟩

/-- The value of the number, unless it is too large.  Zero with a minus sign and numbers below
`-2 ^ 63` are no integers. -/
def value? : Option Json :=
  if n.isInteger then
    if !n.negative then some (.integer n.significand)
    else if 0 < n.significand ∧ n.significand ≤ UInt64.size / 2 then some (.integer (-n.significand))
    else some (n.signed (UInt64.ofNat n.significand).toFloat)
  else n.magnitude?.map n.signed

end Numeral

end TlvSchema.Json
