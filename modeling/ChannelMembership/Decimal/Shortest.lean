import ChannelMembership.Decimal.Binary64

/-!
# Shortest decimal text

A double is written with the fewest decimal digits that read back as the same double; among those
the nearest to its exact value is taken, and of two equally near ones the larger.  All numbers are
compared as exact fractions.  The text is positional: no exponent is ever written.
-/

namespace ChannelMembership
namespace Decimal

/-- A decimal number `digits * 10 ^ exponent`. -/
structure Scaled where
  /-- The digits as one number. -/
  digits : Nat
  /-- The power of ten of the last digit. -/
  exponent : Int
  deriving DecidableEq

/-- The interval of numbers that round to a double, together with the double itself, over one
common denominator. -/
structure Interval where
  /-- Lower end. -/
  low : Nat
  /-- The double itself. -/
  value : Nat
  /-- Upper end. -/
  high : Nat
  /-- The common denominator. -/
  denominator : Nat
  /-- Whether the ends belong to the interval. -/
  closed : Bool

/-- The numbers that round to a finite double.  Below a power of two the gap to the next double is
half as wide; a number half-way between two doubles rounds to the even one. -/
def Interval.around (mantissa exponent : Nat) : Interval :=
  let below := if mantissa = Binary64.hiddenBit ∧ 1 < exponent then 1 else 2
  let (scale, denominator) := Binary64.ratio 1 exponent
  { low := (4 * mantissa - below) * scale
    value := 4 * mantissa * scale
    high := (4 * mantissa + 2) * scale
    denominator := 4 * denominator
    closed := mantissa % 2 = 0 }

/-- The fraction `digits * 10 ^ exponent` over a given denominator, itself as a fraction whose
denominator is a power of ten. -/
def Scaled.over (number : Scaled) (denominator : Nat) : Nat × Nat :=
  (number.digits * Nat.pow 10 number.exponent.toNat * denominator,
    Nat.pow 10 (-number.exponent).toNat)

/-- Whether a decimal number lies in an interval. -/
def Interval.contains (interval : Interval) (number : Scaled) : Bool :=
  let (position, unit) := number.over interval.denominator
  if interval.closed then interval.low * unit ≤ position && position ≤ interval.high * unit
  else interval.low * unit < position && position < interval.high * unit

/-- How far a decimal number is from the double, on the scale of its own last digit. -/
def Interval.distance (interval : Interval) (number : Scaled) : Nat :=
  let (position, unit) := number.over interval.denominator
  (position - interval.value * unit) + (interval.value * unit - position)

/-- The least power of ten above a positive fraction, found among `fuel` candidates from
`exponent` upwards. -/
def magnitude (numerator denominator : Nat) : Nat → Int → Int
  | 0, exponent => exponent
  | fuel + 1, exponent =>
    if numerator * Nat.pow 10 (-exponent).toNat < denominator * Nat.pow 10 exponent.toNat then
      exponent
    else magnitude numerator denominator fuel (exponent + 1)

/-- The best decimal number with a given last digit position, if one lies in the interval. -/
def Interval.best? (interval : Interval) (exponent : Int) : Option Scaled :=
  let floor := interval.value * Nat.pow 10 (-exponent).toNat /
    (interval.denominator * Nat.pow 10 exponent.toNat)
  let lower : Scaled := ⟨floor, exponent⟩
  let upper : Scaled := ⟨floor + 1, exponent⟩
  match interval.contains lower, interval.contains upper with
  | true, true => some (if interval.distance upper ≤ interval.distance lower then upper else lower)
  | true, false => some lower
  | false, true => some upper
  | false, false => none

/-- The first hit among decimal numbers of growing length. -/
def Interval.shortest (interval : Interval) : Nat → Int → Scaled
  | 0, exponent => ⟨0, exponent⟩
  | fuel + 1, exponent =>
    match interval.best? exponent with
    | some number => number
    | none => interval.shortest fuel (exponent - 1)

/-- The shortest decimal number that reads back as `mantissa * 2 ^ (exponent - 1075)`. -/
def shortest (mantissa exponent : Nat) : Scaled :=
  if mantissa = 0 then ⟨0, 0⟩
  else
    let interval := Interval.around mantissa exponent
    let top := magnitude interval.value interval.denominator 700 (-330)
    interval.shortest 20 (top - 1)

/-- Positional text of a decimal number without sign. -/
def Scaled.text (number : Scaled) : String :=
  if number.digits = 0 then "0"
  else if 0 ≤ number.exponent then toString (number.digits * Nat.pow 10 number.exponent.toNat)
  else
    let places := (-number.exponent).toNat
    let digits := (toString number.digits).toList
    let padded := List.replicate (places + 1 - digits.length) '0' ++ digits
    let whole := padded.take (padded.length - places)
    let fraction := (padded.drop (padded.length - places)).reverse.dropWhile (· = '0')
    String.ofList (if fraction.isEmpty then whole else whole ++ '.' :: fraction.reverse)

end Decimal

namespace Binary64

/-- A double as text. -/
def text : Binary64 → String
  | nan => "NaN"
  | infinite negative => if negative then "-inf" else "inf"
  | finite negative mantissa exponent =>
    (if negative then "-" else "") ++ (Decimal.shortest mantissa exponent).text

end Binary64
end ChannelMembership
