import FigureGallery.Number.Shortest

/-!
# Numbers in JSON

How a number that is no integer of 64 bits is read and written. Its digits form an integer of 64 bits as far as they
fit; the rest only counts towards the power of ten, and the result is multiplied or divided by that power with one
rounding each. So the double is near the written number, but not always the nearest. It is written with the fewest
digits that stand for it.
-/

namespace FigureGallery.Json

/-- Digits read so far: those that fit in 64 bits, and the power of ten that belongs to them. -/
structure Digits where
  significand : Nat
  exponent : Int

namespace Digits

/-- The value of a digit. -/
def valueOf (c : Char) : Nat :=
  c.toNat - '0'.toNat

/-- The significand with one more digit, if it fits. -/
def extended? (significand : Nat) (c : Char) : Option Nat :=
  let more := 10 * significand + valueOf c
  if more < Width.capacity 64 then some more else none

/-- The digits before the point. From the first one on that does not fit, each is worth a power of ten. -/
def whole : (significand : Nat) → List Char → Digits
  | significand, [] => ⟨significand, 0⟩
  | significand, c :: cs => match extended? significand c with
    | some more => whole more cs
    | none => ⟨significand, cs.length + 1⟩

/-- The digits with those after the point. From the first one on that does not fit, they are left out. -/
def withFraction (d : Digits) : List Char → Digits
  | [] => d
  | c :: cs => match extended? d.significand c with
    | some more => withFraction ⟨more, d.exponent - 1⟩ cs
    | none => d

/-- The power of ten that magnitudes are multiplied or divided by at most. -/
def maxPower : Nat := 308

/-- A magnitude divided by a power of ten, in steps of the largest power, as many as `fuel` allows. -/
def divided : (fuel : Nat) → Magnitude → (exponent : Nat) → Magnitude
  | 0, a, _ => a
  | fuel + 1, a, exponent =>
    if a.isZero then a
    else if exponent ≤ maxPower then a.dividedBy (.powerOfTen exponent)
    else divided fuel (a.dividedBy (.powerOfTen maxPower)) (exponent - maxPower)

/-- The magnitude that digits stand for; none when it is too large. Two divisions by the largest power leave nothing of
a significand of 64 bits, so three steps are always enough. -/
def magnitude? (d : Digits) : Option Magnitude :=
  let start := Magnitude.nearest d.significand 1
  if d.exponent < 0 then some (divided 3 start d.exponent.natAbs)
  else if d.exponent ≤ maxPower then (some (start.times (.powerOfTen d.exponent.toNat))).filter Magnitude.isFinite
  else if start.isZero then some start
  else none

end Digits

/-- The largest written exponent that is taken as a number. -/
def maxExponent : Nat := Width.capacity 31 - 1

/-- An exponent as it is written: its sign and its number. -/
structure Exponent where
  isNegative : Bool
  number : Nat

/-- Zero. -/
def zeroMagnitude : Magnitude :=
  .nearest 0 1

/-- The magnitude of a number; none when it is too large. An exponent beyond all bounds makes any number zero or too
large. -/
def magnitude? (whole fraction : List Char) (exponent : Option Exponent) : Option Magnitude :=
  let digits := (Digits.whole 0 whole).withFraction fraction
  match exponent with
  | none => digits.magnitude?
  | some e =>
    if maxExponent < e.number then
      if digits.significand = 0 || e.isNegative then some zeroMagnitude else none
    else
      Digits.magnitude? ⟨digits.significand, digits.exponent + if e.isNegative then -(e.number : Int) else e.number⟩

/-- The text of a positive number with digits and a power of ten. The first digit may be written for a power of ten
from minus five to fifteen at its place; beyond, the power is written out. -/
def decimalText (digits : List Char) (exponent : Int) : List Char :=
  let leading := digits.length + exponent - 1
  if leading < -5 || 15 < leading then
    let tail := match digits with
      | [] => ['0']
      | [d] => [d]
      | d :: ds => d :: '.' :: ds
    tail ++ 'e' :: (if leading < 0 then '-' else '+') :: Nat.toDigits 10 leading.natAbs
  else if leading < 0 then '0' :: '.' :: (List.replicate (leading.natAbs - 1) '0' ++ digits)
  else
    let places := leading.toNat + 1
    if digits.length ≤ places then digits ++ List.replicate (places - digits.length) '0' ++ ['.', '0']
    else digits.take places ++ '.' :: digits.drop places

/-- Digits without the zeros at their end, and the power of ten that belongs to them then. -/
def withoutZeros (d : Decimal) : List Char × Int :=
  let digits := Nat.toDigits 10 d.mantissa
  let zeros := (digits.reverse.takeWhile (· == '0')).length
  (digits.take (digits.length - zeros), d.exponent + zeros)

/-- The text of a double: positional with a point, or with a power of ten. -/
def realText (x : Double) : List Char :=
  let text :=
    if x.magnitude.isZero then ['0', '.', '0']
    else
      let (digits, exponent) := withoutZeros x.magnitude.shortest
      decimalText digits exponent
  if x.isNegative then '-' :: text else text

end FigureGallery.Json
