import FigureGallery.Number.Width

/-!
# Decimal literals

Numbers written with a mantissa and a power of ten, and whether the nearest double of one is finite.
-/

namespace FigureGallery

/-- The number `mantissa * 10 ^ exponent`, or its opposite. -/
structure Decimal where
  mantissa : Nat
  exponent : Int
deriving DecidableEq

namespace Decimal

/-- The least number that no longer rounds to a finite double: half a unit above the largest one. -/
def overflowLimit : Nat := Width.capacity 1024 - Width.capacity 970

/-- Whether the nearest double is finite. Numbers that are far from the limit are told by their digits alone. -/
def fitsDouble (d : Decimal) : Bool :=
  if d.mantissa = 0 then true
  else if 0 ≤ d.exponent then
    d.exponent.toNat ≤ 400 && d.mantissa * Nat.pow 10 d.exponent.toNat < overflowLimit
  else
    (Nat.toDigits 10 d.mantissa).length ≤ 300 + d.exponent.natAbs ||
      d.mantissa < overflowLimit * Nat.pow 10 d.exponent.natAbs

end Decimal

end FigureGallery
