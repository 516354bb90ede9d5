/-!
# Hexadecimal digits

Digits of base sixteen and their values. Digits are read in either case.
-/

namespace FigureGallery.Text

/-- The value of a hexadecimal digit. -/
def hexValue? (c : Char) : Option Nat :=
  if '0' ≤ c && c ≤ '9' then some (c.toNat - '0'.toNat)
  else if 'a' ≤ c && c ≤ 'f' then some (c.toNat - 'a'.toNat + 10)
  else if 'A' ≤ c && c ≤ 'F' then some (c.toNat - 'A'.toNat + 10)
  else none

/-- Whether a character is a hexadecimal digit. -/
def isHexDigit (c : Char) : Bool :=
  (hexValue? c).isSome

/-- The number that hexadecimal digits stand for. -/
def hexNumber? (digits : List Char) : Option Nat :=
  digits.foldl (fun number c => number.bind fun n => (hexValue? c).map (16 * n + ·)) (some 0)

/-- The digit with a value below sixteen, in lower case. -/
def lowerHexDigit (n : Nat) : Char :=
  "0123456789abcdef".toList.getD n '0'

/-- The digit with a value below sixteen, in upper case. -/
def upperHexDigit (n : Nat) : Char :=
  "0123456789ABCDEF".toList.getD n '0'

end FigureGallery.Text
