import FigureGallery.Number.Decimal

/-!
# TOML values

What a TOML document holds. Numbers keep their exact value; a date or time is known only to be one. Whether an integer
is a number at all matters only to those who use it.
-/

namespace FigureGallery.Toml

/-- A floating point literal. -/
inductive FloatLiteral where
  | decimal (number : Decimal)
  | infinity
  | notANumber
deriving DecidableEq

/-- Whether the nearest double of a literal is finite, or the literal asks for one that is not. -/
def FloatLiteral.fits : FloatLiteral → Bool
  | .decimal number => number.fitsDouble
  | .infinity => true
  | .notANumber => true

/-- A value of a document. -/
inductive Value where
  | string (text : String)
  /-- An integer; its digits may stand for no number. -/
  | integer (number : Option Int)
  | float (literal : FloatLiteral)
  | boolean (flag : Bool)
  | time
  | array (items : List Value)
  | table (entries : List (String × Value))

mutual

/-- Whether every number in a value is one and fits the widest machine type for it: 128 bits for integers, a double
otherwise. -/
def Value.fits : Value → Bool
  | .integer number => number.any fun n => Width.fitsSigned 128 n || Width.fitsUnsigned 128 n
  | .float literal => literal.fits
  | .array items => allFit items
  | .table entries => entriesFit entries
  | _ => true

/-- Whether every number in a list of values fits. -/
def allFit : List Value → Bool
  | [] => true
  | v :: vs => v.fits && allFit vs

/-- Whether every number in a table fits. -/
def entriesFit : List (String × Value) → Bool
  | [] => true
  | (_, v) :: es => v.fits && entriesFit es

end

end FigureGallery.Toml
