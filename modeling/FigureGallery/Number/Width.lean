/-!
# Widths of integers

Which integers have a form of a fixed number of bits, with or without a sign.
-/

namespace FigureGallery.Width

/-- How many values a number of bits can hold. -/
def capacity (bits : Nat) : Nat :=
  Nat.pow 2 bits

/-- Whether an integer has a form of so many bits without a sign. -/
def fitsUnsigned (bits : Nat) (n : Int) : Bool :=
  0 ≤ n && n < capacity bits

/-- Whether an integer has a form of so many bits with a sign, which takes one of them. -/
def fitsSigned (bits : Nat) (n : Int) : Bool :=
  -(capacity (bits - 1) : Int) ≤ n && n < capacity (bits - 1)

end FigureGallery.Width
