/-!
# Binary floating-point numbers

Floating-point numbers are kept as the bits of their interchange format, so that nothing is lost
when a value is stored and read back.

* `BinaryFormat` — how many bits a format has for the fraction and for the exponent
* `BinaryFormat.decode` — the number that a pattern of bits stands for
* `Binary32`, `Binary64` — the patterns of the two formats, with the equality of numbers
-/

namespace TlvSchema

/-! ### Formats -/

/-- A binary interchange format: from the top a sign bit, the exponent and the fraction. -/
structure BinaryFormat where
  /-- The number of bits of the fraction. -/
  fractionBits : Nat
  /-- The number of bits of the exponent. -/
  exponentBits : Nat

/-- What a pattern of bits stands for. -/
inductive BinaryNumber where
  /-- No number. -/
  | nan
  /-- An infinity of either sign. -/
  | infinity (negative : Bool)
  /-- The number `significand * 2 ^ exponent`, or its opposite. -/
  | finite (negative : Bool) (significand : Nat) (exponent : Int)
deriving DecidableEq, Repr

namespace BinaryFormat

/-- The format of 32 bits. -/
def single : BinaryFormat := ⟨23, 8⟩

/-- The format of 64 bits. -/
def double : BinaryFormat := ⟨52, 11⟩

variable (f : BinaryFormat)

/-- The fraction of a pattern. -/
def fraction (bits : Nat) : Nat := bits % Nat.pow 2 f.fractionBits

/-- The exponent of a pattern as it is stored. -/
def storedExponent (bits : Nat) : Nat :=
  bits / Nat.pow 2 f.fractionBits % Nat.pow 2 f.exponentBits

/-- The sign bit of a pattern. -/
def isNegative (bits : Nat) : Bool :=
  bits / Nat.pow 2 (f.fractionBits + f.exponentBits) % 2 == 1

/-- What is subtracted from a stored exponent to make the significand an integer. -/
def exponentOffset : Nat := Nat.pow 2 (f.exponentBits - 1) - 1 + f.fractionBits

/-- The number that a pattern of bits stands for. -/
def decode (bits : Nat) : BinaryNumber :=
  let negative := f.isNegative bits
  let fraction := f.fraction bits
  let stored := f.storedExponent bits
  if stored = Nat.pow 2 f.exponentBits - 1 then
    if fraction = 0 then .infinity negative else .nan
  else if stored = 0 then
    .finite negative fraction (1 - (f.exponentOffset : Int))
  else
    .finite negative (Nat.pow 2 f.fractionBits + fraction) (stored - (f.exponentOffset : Int))

/-- The pattern stands for no number. -/
def isNaN (bits : Nat) : Bool :=
  f.storedExponent bits == Nat.pow 2 f.exponentBits - 1 && f.fraction bits != 0

/-- The pattern stands for zero, of either sign. -/
def isZero (bits : Nat) : Bool :=
  bits % Nat.pow 2 (f.fractionBits + f.exponentBits) == 0

/-- Two patterns stand for equal numbers: neither is NaN, and they are the same or both zero. -/
def equal (a b : Nat) : Bool :=
  !f.isNaN a && !f.isNaN b && (a == b || (f.isZero a && f.isZero b))

end BinaryFormat

/-! ### Numbers of two widths -/

/-- A floating-point number of 32 bits. -/
structure Binary32 where
  /-- The bits of the number. -/
  bits : UInt32
deriving DecidableEq, Repr, Inhabited

/-- A floating-point number of 64 bits. -/
structure Binary64 where
  /-- The bits of the number. -/
  bits : UInt64
deriving DecidableEq, Repr, Inhabited

/-- Equality as numbers, which NaN does not have with anything. -/
def Binary32.equal (a b : Binary32) : Bool :=
  BinaryFormat.single.equal a.bits.toNat b.bits.toNat

/-- Equality as numbers, which NaN does not have with anything. -/
def Binary64.equal (a b : Binary64) : Bool :=
  BinaryFormat.double.equal a.bits.toNat b.bits.toNat

end TlvSchema
