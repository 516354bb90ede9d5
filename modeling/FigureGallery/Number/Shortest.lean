import FigureGallery.Number.Decimal
import FigureGallery.Number.Double

/-!
# The shortest decimal of a double

The decimal with the fewest digits among those that round to a double, and of these the nearest one. The numbers that
round to a double form an interval, whose ends belong to it when the significand is even. On a grid of decimals with a
given number of digits only the two neighbours of the double have to be looked at: if any point of the grid lies in the
interval, so does one of them.
-/

namespace FigureGallery.Magnitude

/-- How many decimal digits a number has. -/
def digitCount (n : Nat) : Nat :=
  (Nat.toDigits 10 n).length

/-- The quotient of a magnitude, in quarters of its spacing: `numerator / denominator` is one quarter. -/
def quarter (a : Magnitude) : Nat × Nat :=
  let exponent := a.exponent - 2
  if 0 ≤ exponent then (Width.capacity exponent.toNat, 1) else (1, Width.capacity exponent.natAbs)

/-- Where the interval of numbers that round to a magnitude starts, in quarters. Below a power of two the spacing is
half as wide. -/
def lowerEnd (a : Magnitude) : Nat :=
  if a.significand = significandLimit / 2 && minExponent < a.exponent then 4 * a.significand - 1
  else 4 * a.significand - 2

/-- Where the interval of numbers that round to a magnitude ends, in quarters. -/
def upperEnd (a : Magnitude) : Nat :=
  4 * a.significand + 2

/-- A decimal as a quotient. -/
def quotientOf (d : Decimal) : Nat × Nat :=
  if 0 ≤ d.exponent then (d.mantissa * Nat.pow 10 d.exponent.toNat, 1)
  else (d.mantissa, Nat.pow 10 d.exponent.natAbs)

/-- A decimal and a number of quarters of a magnitude, brought to one denominator. -/
def compared (a : Magnitude) (d : Decimal) (quarters : Nat) : Nat × Nat :=
  let (numerator, denominator) := quotientOf d
  (numerator * a.quarter.2, quarters * a.quarter.1 * denominator)

/-- Whether a decimal rounds to a magnitude. -/
def isRoundedFrom (a : Magnitude) (d : Decimal) : Bool :=
  let (point, low) := a.compared d a.lowerEnd
  let high := (a.compared d a.upperEnd).2
  if a.significand % 2 = 0 then low ≤ point && point ≤ high else low < point && point < high

/-- How far a decimal is from a magnitude, for comparison with decimals of the same exponent. -/
def distance (a : Magnitude) (d : Decimal) : Nat :=
  let (point, value) := a.compared d (4 * a.significand)
  max point value - min point value

/-- The exponent of the least power of ten above a magnitude that is not zero. -/
def decimalExponent (a : Magnitude) : Int :=
  let numerator := 4 * a.significand * a.quarter.1
  let denominator := a.quarter.2
  if denominator ≤ numerator then digitCount (numerator / denominator)
  else 1 - (digitCount (denominator / numerator) : Int)

/-- The largest decimal with an exponent that is not above a magnitude. -/
def floorAt (a : Magnitude) (exponent : Int) : Decimal :=
  let numerator := 4 * a.significand * a.quarter.1
  let denominator := a.quarter.2
  ⟨if 0 ≤ exponent then numerator / (denominator * Nat.pow 10 exponent.toNat)
    else numerator * Nat.pow 10 exponent.natAbs / denominator, exponent⟩

/-- The decimal of an exponent that rounds to a magnitude; of two the nearer one, and of two equally near the one that
is even. -/
def roundedAt? (a : Magnitude) (exponent : Int) : Option Decimal :=
  let below := a.floorAt exponent
  let above : Decimal := ⟨below.mantissa + 1, exponent⟩
  match a.isRoundedFrom below, a.isRoundedFrom above with
  | true, true =>
    if a.distance below < a.distance above then some below
    else if a.distance above < a.distance below then some above
    else some (if below.mantissa % 2 = 0 then below else above)
  | true, false => some below
  | false, true => some above
  | false, false => none

/-- The shortest decimal that rounds to a magnitude which is not zero. Seventeen digits are always enough. -/
def shortest (a : Magnitude) : Decimal :=
  let top := a.decimalExponent
  ((List.range 17).findSome? fun n => a.roundedAt? (top - (n + 1 : Nat))).getD (a.floorAt (top - 17))

end FigureGallery.Magnitude
