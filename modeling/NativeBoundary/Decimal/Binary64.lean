/-!
# Double precision numbers in exact arithmetic

A finite number is a significand times a power of two.  `ofDecimal` rounds a
decimal to the nearest number, a tie to the even significand, and `render`
writes the fewest digits that read back as the same number, positionally and
with at least one place after the point.  No machine arithmetic is involved.
-/

namespace NativeBoundary.Decimal

/-- A number of double precision. -/
inductive Binary64
  /-- The significand is below 2^53, and at least 2^52 unless the exponent is the least one. -/
  | finite (isNegative : Bool) (significand : Nat) (exponent : Int)
  | infinite (isNegative : Bool)
  | notANumber
deriving DecidableEq, Repr, Inhabited

def powerFraction (base : Nat) (exponent : Int) : Nat × Nat :=
  if 0 ≤ exponent then (base.pow exponent.toNat, 1) else (1, base.pow (-exponent).toNat)

/-- The nearest natural number to a fraction, a tie to the even one. -/
def roundFraction (numerator denominator : Nat) : Nat :=
  let quotient := numerator / denominator
  let remainder := numerator % denominator
  if 2 * remainder < denominator ∨ (2 * remainder = denominator ∧ quotient % 2 = 0) then quotient
  else quotient + 1

namespace Binary64

def leastExponent : Int := -1074

def greatestExponent : Int := 971

/-- The bound of all significands, which is 2^53. -/
def significandBound : Nat := 9007199254740992

def zero (isNegative : Bool) : Binary64 := .finite isNegative 0 leastExponent

/-- Round a fraction that is not zero to the nearest number. -/
def ofFraction (isNegative : Bool) (numerator denominator : Nat) : Binary64 :=
  let scale : Int := numerator.log2 - denominator.log2
  let scaled (exponent : Int) : Nat × Nat :=
    let (above, under) := powerFraction 2 exponent
    (numerator * under, denominator * above)
  let first := scale - 53
  let (above, under) := scaled first
  let fitting := if above / under < significandBound then first else first + 1
  let exponent := max leastExponent fitting
  let (numerator, denominator) := scaled exponent
  let significand := roundFraction numerator denominator
  let (significand, exponent) :=
    if significand = significandBound then (significand / 2, exponent + 1)
    else (significand, exponent)
  if greatestExponent < exponent then .infinite isNegative
  else .finite isNegative significand exponent

def digitCount (number : Nat) : Nat :=
  (Nat.toDigits 10 number).length

/-- The nearest number to a significand times a power of ten. -/
def ofDecimal (isNegative : Bool) (significand : Nat) (exponent : Int) : Binary64 :=
  let magnitude : Int := digitCount significand + exponent
  if significand = 0 ∨ magnitude < -330 then zero isNegative
  else if 310 < magnitude then .infinite isNegative
  else
    let (above, under) := powerFraction 10 exponent
    ofFraction isNegative (significand * above) under

/-! ## The shortest text -/

/-- A significand and a power of ten. -/
structure Digits where
  significand : Nat
  exponent : Int
deriving DecidableEq, Repr

/-- The reals that round to a finite number, as fractions over one denominator. -/
structure Interval where
  low : Nat
  middle : Nat
  high : Nat
  denominator : Nat
  /-- Whether the ends round to the number too. -/
  isClosed : Bool

/-- The interval of a significand and an exponent.  Below a power of two the gap is half as wide. -/
def interval (significand : Nat) (exponent : Int) : Interval :=
  let (above, under) := powerFraction 2 (exponent - 2)
  let below :=
    if significand = significandBound / 2 ∧ leastExponent < exponent then 1 else 2
  { low := (4 * significand - below) * above
    middle := 4 * significand * above
    high := (4 * significand + 2) * above
    denominator := under
    isClosed := significand % 2 == 0 }

def Interval.holds (interval : Interval) (digits : Digits) : Bool :=
  let (above, under) := powerFraction 10 digits.exponent
  let point := digits.significand * above * interval.denominator
  let low := interval.low * under
  let high := interval.high * under
  (low < point && point < high) || (interval.isClosed && (point == low || point == high))

/-- How far a decimal lies from the middle of an interval, in units of its own denominator. -/
def Interval.distance (interval : Interval) (digits : Digits) : Nat :=
  let (above, under) := powerFraction 10 digits.exponent
  let point := digits.significand * above * interval.denominator
  let middle := interval.middle * under
  (point - middle) + (middle - point)

/-- The exponent of the power of ten just above the middle of an interval. -/
def Interval.magnitude (interval : Interval) : Int :=
  let scale : Int := (interval.middle.log2 : Int) - interval.denominator.log2 - 1
  let guess := Int.fdiv (scale * 30103) 100000
  let below (exponent : Int) : Bool :=
    let (above, under) := powerFraction 10 exponent
    interval.middle * under < above * interval.denominator
  if below guess then guess
  else if below (guess + 1) then guess + 1
  else guess + 2

/-- The neighbours of the middle on the grid of a number of digits that lie in the interval: the
nearer one, the upper one when neither is nearer.  An upper one with a digit more than the grid has
is a power of ten and is written with a single digit. -/
def Interval.onGrid (interval : Interval) (magnitude : Int) (count : Nat) : Option Digits :=
  let exponent := magnitude - count
  let (above, under) := powerFraction 10 exponent
  let below := interval.middle * under / (above * interval.denominator)
  let lower : Digits := ⟨below, exponent⟩
  let upper : Digits := ⟨below + 1, exponent⟩
  let carried : Digits := if below + 1 = Nat.pow 10 count then ⟨1, magnitude⟩ else upper
  match interval.holds lower, interval.holds upper with
  | true, true =>
    some (if interval.distance lower < interval.distance upper then lower else carried)
  | true, false => some lower
  | false, true => some carried
  | false, false => none

/-- The fewest digits that read back as a number that is not zero, the nearest ones of those. -/
def shortest (significand : Nat) (exponent : Int) : Digits :=
  let around := interval significand exponent
  let magnitude := around.magnitude
  ((List.range 17).findSome? fun count => around.onGrid magnitude (count + 1)).getD
    ⟨significand, 0⟩

/-- Digits written positionally, with a point and at least one place after it. -/
def Digits.positional (digits : Digits) : String :=
  let written := Nat.toDigits 10 digits.significand
  if 0 ≤ digits.exponent then
    String.ofList (written ++ List.replicate digits.exponent.toNat '0') ++ ".0"
  else
    let places := (-digits.exponent).toNat
    let filled := List.replicate (places + 1 - written.length) '0' ++ written
    let whole := filled.length - places
    String.ofList (filled.take whole) ++ "." ++ String.ofList (filled.drop whole)

def render : Binary64 → String
  | .notANumber => "NaN"
  | .infinite false => "inf"
  | .infinite true => "-inf"
  | .finite isNegative significand exponent =>
    (if isNegative then "-" else "") ++
      (if significand = 0 then "0.0" else (shortest significand exponent).positional)

end Binary64

end NativeBoundary.Decimal
