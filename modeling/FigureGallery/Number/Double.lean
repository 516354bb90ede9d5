import FigureGallery.Number.Width

/-!
# Doubles

Binary numbers with a significand of 53 bits, as natural numbers times powers of two, and rounding to the nearest of
them: a number half way between two of them goes to the one with an even significand.
-/

namespace FigureGallery

/-- The number `significand * 2 ^ exponent`. -/
structure Magnitude where
  significand : Nat
  exponent : Int
deriving DecidableEq

namespace Magnitude

/-- The least exponent: the spacing of the smallest doubles. -/
def minExponent : Int := -1074

/-- The largest exponent of a finite double. -/
def maxExponent : Int := 971

/-- The largest significand is one less than this. -/
def significandLimit : Nat := Width.capacity 53

/-- The natural number nearest to a quotient; of two that are equally near, the even one. -/
def roundQuotient (numerator denominator : Nat) : Nat :=
  let quotient := numerator / denominator
  let twice := 2 * (numerator % denominator)
  if twice < denominator then quotient
  else if denominator < twice then quotient + 1
  else quotient + quotient % 2

/-- The exponent of the largest power of two that is not above a quotient of two positive numbers. -/
def binaryExponent (numerator denominator : Nat) : Int :=
  let estimate := (numerator.log2 : Int) - denominator.log2
  let isReached :=
    if 0 ≤ estimate then denominator * Width.capacity estimate.toNat ≤ numerator
    else denominator ≤ numerator * Width.capacity estimate.natAbs
  if isReached then estimate else estimate - 1

/-- The multiple of a power of two nearest to a quotient. -/
def scaled (numerator denominator : Nat) (exponent : Int) : Nat :=
  if 0 ≤ exponent then roundQuotient numerator (denominator * Width.capacity exponent.toNat)
  else roundQuotient (numerator * Width.capacity exponent.natAbs) denominator

/-- The magnitude nearest to a quotient, as if there were no largest one. -/
def nearest (numerator denominator : Nat) : Magnitude :=
  if numerator = 0 then ⟨0, minExponent⟩
  else
    let exponent := max (binaryExponent numerator denominator - 52) minExponent
    let significand := scaled numerator denominator exponent
    if significand = significandLimit then ⟨significandLimit / 2, exponent + 1⟩ else ⟨significand, exponent⟩

/-- Whether a magnitude is that of a finite double. -/
def isFinite (a : Magnitude) : Bool :=
  a.exponent ≤ maxExponent

/-- Whether a magnitude is zero. -/
def isZero (a : Magnitude) : Bool :=
  a.significand == 0

/-- The magnitude nearest to a quotient times a power of two. -/
def nearestScaled (numerator denominator : Nat) (exponent : Int) : Magnitude :=
  if 0 ≤ exponent then nearest (numerator * Width.capacity exponent.toNat) denominator
  else nearest numerator (denominator * Width.capacity exponent.natAbs)

/-- The magnitude nearest to a product. -/
def times (a b : Magnitude) : Magnitude :=
  nearestScaled (a.significand * b.significand) 1 (a.exponent + b.exponent)

/-- The magnitude nearest to a quotient by a magnitude that is not zero. -/
def dividedBy (a b : Magnitude) : Magnitude :=
  nearestScaled a.significand b.significand (a.exponent - b.exponent)

/-- The magnitude nearest to a power of ten. -/
def powerOfTen (exponent : Nat) : Magnitude :=
  nearest (Nat.pow 10 exponent) 1

end Magnitude

/-- A finite double: a magnitude with a sign, which zero has too. -/
structure Double where
  isNegative : Bool
  magnitude : Magnitude
deriving DecidableEq

end FigureGallery
