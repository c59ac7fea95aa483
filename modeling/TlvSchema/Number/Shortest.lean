import TlvSchema.Number.Binary

/-!
# Shortest decimal texts

A floating-point number is shown with the fewest decimal digits that read back as the same number.
The numbers that read back as `m * 2 ^ q` form an interval around it, the ends of which belong to it
when `m` is even; the digits are found by trying grids of one, two, … significant digits until one of
the two grid points next to the number lies in the interval.

* `Rounding` — a number with its interval, over a common denominator
* `shortest` — the digits
* `DecimalStyle` — how the digits are laid out
* `BinaryFormat.display` — the text of a number
-/

namespace TlvSchema

/-! ### The interval of a number -/

/-- A positive number and the interval of the numbers that round to it, all over `denominator`. -/
structure Rounding where
  /-- The number. -/
  value : Nat
  /-- The lower end of the interval. -/
  lower : Nat
  /-- The upper end of the interval. -/
  upper : Nat
  /-- What all three are divided by. -/
  denominator : Nat
  /-- The ends belong to the interval. -/
  closed : Bool

/-- The interval around `significand * 2 ^ exponent`.  Below a power of two the numbers lie twice as
dense as above it, unless it is the least power with a full significand. -/
def Rounding.of (f : BinaryFormat) (significand : Nat) (exponent : Int) : Rounding :=
  let denser := significand = Nat.pow 2 f.fractionBits ∧ 1 - (f.exponentOffset : Int) < exponent
  let scale := Nat.pow 2 (exponent - 2).toNat
  { value := 4 * significand * scale
    lower := (4 * significand - if denser then 1 else 2) * scale
    upper := (4 * significand + 2) * scale
    denominator := Nat.pow 2 (2 - exponent).toNat
    closed := significand % 2 = 0 }

/-! ### Digits -/

/-- The decimal number `digits * 10 ^ exponent`. -/
structure Decimal where
  /-- The digits as a number. -/
  digits : Nat
  /-- The power of ten they are counted in. -/
  exponent : Int
deriving DecidableEq, Repr

/-- What to do when the two candidates are equally near. -/
inductive Tie where
  /-- Take the greater one. -/
  | up
  /-- Take the one whose last digit is even. -/
  | even
deriving DecidableEq, Repr

namespace Rounding

variable (r : Rounding)

/-- The least power of ten above the number, as an exponent.  Binary numbers of 64 bits are well
above `10 ^ -400`. -/
def magnitude : Int :=
  ((Nat.toDigits 10 (r.value * Nat.pow 10 400 / r.denominator)).length : Int) - 400

/-- The grid point lies in the interval. -/
def contains (d : Decimal) : Bool :=
  let point := d.digits * Nat.pow 10 d.exponent.toNat * r.denominator
  let scale := Nat.pow 10 (-d.exponent).toNat
  if r.closed then r.lower * scale ≤ point ∧ point ≤ r.upper * scale
  else r.lower * scale < point ∧ point < r.upper * scale

/-- The greatest point of the grid with the given exponent that is not above the number. -/
def floorAt (exponent : Int) : Decimal :=
  ⟨r.value * Nat.pow 10 (-exponent).toNat / (r.denominator * Nat.pow 10 exponent.toNat), exponent⟩

/-- The nearer of the grid points below and above the number. -/
def nearer (tie : Tie) (below above : Decimal) : Decimal :=
  let doubled := 2 * r.value * Nat.pow 10 (-below.exponent).toNat
  let middle := (below.digits + above.digits) * Nat.pow 10 below.exponent.toNat * r.denominator
  match compare doubled middle with
  | .lt => below
  | .gt => above
  | .eq => match tie with
    | .up => above
    | .even => if below.digits % 2 = 0 then below else above

/-- A point of the grid in the interval, the nearer one if there are two. -/
def pointAt? (tie : Tie) (exponent : Int) : Option Decimal :=
  let below := r.floorAt exponent
  let above : Decimal := ⟨below.digits + 1, exponent⟩
  match r.contains below, r.contains above with
  | true, true => some (r.nearer tie below above)
  | true, false => some below
  | false, true => some above
  | false, false => none

/-- The digits on the coarsest grid that has a point in the interval.  Seventeen significant digits
always suffice. -/
def shortest (tie : Tie) : Decimal :=
  let grids := (List.range 17).map fun (n : Nat) => r.magnitude - 1 - n
  (grids.findSome? (r.pointAt? tie)).getD (r.floorAt (r.magnitude - 17))

end Rounding

/-! ### Layout -/

/-- How the digits of a number are laid out. -/
structure DecimalStyle where
  /-- The least power of ten of a first digit for which the number is written out. -/
  writtenFrom : Int
  /-- The least power of ten of a first digit from which on an exponent is written. -/
  writtenBelow : Int
  /-- An exponent that is not negative has a plus sign. -/
  plusSign : Bool
  /-- Which of two equally near digits is taken. -/
  tie : Tie

/-- The digits without the zeros at their end. -/
def dropTrailingZeros (cs : List Char) : List Char :=
  (cs.reverse.dropWhile (· == '0')).reverse

/-- The digits written out, with at least one digit on both sides of the point.  The first of them
counts `10 ^ leading`. -/
def writeOut (digits : List Char) (leading : Int) : List Char :=
  if leading < 0 then
    '0' :: '.' :: (List.replicate (-leading - 1).toNat '0' ++ digits)
  else
    let whole := leading.toNat + 1
    let after := digits.drop whole
    digits.take whole ++ List.replicate (whole - digits.length) '0' ++
      '.' :: (if after.isEmpty then ['0'] else after)

/-- The digits with a point after the first one and an exponent. -/
def writeExponent (plusSign : Bool) (digits : List Char) (leading : Int) : List Char :=
  digits.take 1 ++ (if digits.length ≤ 1 then [] else '.' :: digits.drop 1) ++
    'e' :: (if plusSign && 0 ≤ leading then ['+'] else []) ++ (toString leading).toList

/-- The text of a positive decimal number. -/
def DecimalStyle.layOut (style : DecimalStyle) (d : Decimal) : List Char :=
  let all := Nat.toDigits 10 d.digits
  let leading := d.exponent + all.length - 1
  let digits := dropTrailingZeros all
  if style.writtenFrom ≤ leading ∧ leading < style.writtenBelow then writeOut digits leading
  else writeExponent style.plusSign digits leading

/-- The text of the number with the given bits. -/
def BinaryFormat.display (f : BinaryFormat) (style : DecimalStyle) (bits : Nat) : String :=
  let signed (negative : Bool) (text : String) := if negative then "-" ++ text else text
  match f.decode bits with
  | .nan => "NaN"
  | .infinity negative => signed negative "inf"
  | .finite negative 0 _ => signed negative "0.0"
  | .finite negative significand exponent =>
    let digits := (Rounding.of f significand exponent).shortest style.tie
    signed negative (String.ofList (style.layOut digits))

end TlvSchema
