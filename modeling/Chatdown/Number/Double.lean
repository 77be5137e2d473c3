/-!
# Numbers of double precision

A finite number is a whole mantissa times a power of two. A decimal is read as the
nearest number, the even mantissa of two equally near ones, and a number is written
with the fewest decimal digits that are read as it again. The text is positional,
however many zeros that takes, and a whole number has no point.
-/

namespace Chatdown.Number

/-- A number of double precision. -/
inductive Double where
  /-- The mantissa times two to the power of the exponent. -/
  | finite (negative : Bool) (mantissa : Nat) (exponent : Int)
  | infinite (negative : Bool)
  | nan
deriving DecidableEq, Repr

/-- A fraction with the value of a whole number times a power of a base: its
numerator and its denominator. -/
def scaled (value base : Nat) (power : Int) : Nat × Nat :=
  match power with
  | .ofNat n => (value * base.pow n, 1)
  | .negSucc n => (value, base.pow (n + 1))

/-- The whole number nearest to a fraction, the even one of two. -/
def roundEven (numerator denominator : Nat) : Nat :=
  let quotient := numerator / denominator
  let twice := 2 * (numerator % denominator)
  if twice < denominator then quotient
  else if denominator < twice then quotient + 1
  else quotient + quotient % 2

/-- The greatest power of a base that is at most a positive fraction, given a power
that is at most one too high. -/
def floorPower (base numerator denominator : Nat) (guess : Int) : Int :=
  let (value, unit) := scaled 1 base guess
  if value * denominator ≤ numerator * unit then guess else guess - 1

namespace Double

/-- The least mantissa with all 53 bits. -/
def minMantissa : Nat := 0x10000000000000

/-- The least exponent. -/
def minExponent : Int := -1074

/-- The greatest exponent. -/
def maxExponent : Int := 971

/-- The number nearest to a positive fraction. -/
def ofFraction (negative : Bool) (numerator denominator : Nat) : Double :=
  let magnitude := floorPower 2 numerator denominator
    ((numerator.log2 : Int) - (denominator.log2 : Int))
  let exponent := max (magnitude - 52) minExponent
  let (value, unit) := scaled denominator 2 exponent
  let mantissa := roundEven (numerator * unit) value
  let (mantissa, exponent) :=
    if mantissa = 2 * minMantissa then (minMantissa, exponent + 1) else (mantissa, exponent)
  if maxExponent < exponent then .infinite negative else .finite negative mantissa exponent

/-- The number nearest to a decimal, given by its digits as a whole number and the
power of ten that they are multiplied with. -/
def ofDecimal (negative : Bool) (digits : Nat) (power : Int) : Double :=
  let size : Int := (Nat.toDigits 10 digits).length
  if digits = 0 ∨ size + power < -400 then .finite negative 0 minExponent
  else if 400 < size + power then .infinite negative
  else
    let (numerator, denominator) := scaled digits 10 power
    ofFraction negative numerator denominator

/-- Twice the neighbourhood of numbers that are read as a positive number: four
times its value, and four times its two ends, all in the same unit. The lower end
is nearer where the exponent changes. -/
def ends (mantissa : Nat) (exponent : Int) : Nat × Nat × Nat :=
  let below := if mantissa = minMantissa ∧ minExponent < exponent then 1 else 2
  (4 * mantissa - below, 4 * mantissa, 4 * mantissa + 2)

/-- The decimal with some number of digits that is nearest to a positive number
among those that are read as it: its digits, and the power of ten that they are
multiplied with. -/
def decimalOf? (mantissa : Nat) (exponent : Int) (power : Int) : Option (Nat × Int) :=
  let (low, middle, high) := ends mantissa exponent
  let (unit, quarter) := scaled 1 2 (exponent - 2)
  let (ten, tenth) := scaled 1 10 power
  let grid := ten * quarter
  let place (n : Nat) : Nat := n * unit * tenth
  let inside (digits : Nat) : Bool :=
    if mantissa % 2 = 0 then
      place low ≤ digits * grid && digits * grid ≤ place high
    else place low < digits * grid && digits * grid < place high
  let digits := place middle / grid
  let lower := inside digits
  let upper := inside (digits + 1)
  if lower && upper then
    if 2 * (place middle % grid) < grid then some (digits, power) else some (digits + 1, power)
  else if lower then some (digits, power)
  else if upper then some (digits + 1, power)
  else none

/-- The shortest decimal that is read as a positive number: its digits, and the
power of ten that they are multiplied with. -/
def shortest (mantissa : Nat) (exponent : Int) : Nat × Int :=
  let (numerator, denominator) := scaled mantissa 2 exponent
  let guess : Int :=
    ((Nat.toDigits 10 numerator).length : Int) - ((Nat.toDigits 10 denominator).length : Int)
  let magnitude := floorPower 10 numerator denominator guess
  ((List.range 17).findSome? fun (count : Nat) =>
    decimalOf? mantissa exponent (magnitude - count)).getD (mantissa, 0)

/-- Digits times a power of ten, in positional notation. -/
def positional (digits : List Char) (power : Int) : List Char :=
  match power with
  | .ofNat n => digits ++ List.replicate n '0'
  | .negSucc n =>
    let padded := List.replicate (n + 2 - digits.length) '0' ++ digits
    padded.take (padded.length - (n + 1)) ++ '.' :: padded.drop (padded.length - (n + 1))

/-- The text of a positive number. -/
def positiveText (mantissa : Nat) (exponent : Int) : List Char :=
  let (digits, power) := shortest mantissa exponent
  let written := Nat.toDigits 10 digits
  let kept := (written.reverse.dropWhile (· = '0')).reverse
  positional kept (power + (written.length - kept.length : Nat))

/-- The text of a number. -/
def text : Double → List Char
  | nan => ['N', 'a', 'N']
  | infinite negative => (if negative then ['-'] else []) ++ ['i', 'n', 'f']
  | finite negative mantissa exponent =>
    (if negative then ['-'] else []) ++
      (if mantissa = 0 then ['0'] else positiveText mantissa exponent)

end Double

end Chatdown.Number
