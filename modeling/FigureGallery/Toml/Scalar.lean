import FigureGallery.Toml.Value
import FigureGallery.Toml.Quoted

/-!
# Numbers, flags and times of TOML

The values that are written without quotes or brackets. Digits may be parted by single underscores, a decimal number
has no leading zero, and dates have to exist in the calendar. The digits of an integer are not looked at before its
number is used.
-/

namespace FigureGallery.Toml

/-- A text without its underscores. Each of them stands before a digit, and after a digit or the first character of
the text. -/
def joined? (isDigit : Char → Bool) : List Char → Option (List Char)
  | [] => some []
  | '_' :: _ => none
  | first :: rest => (go true rest).map (first :: ·)
where
  /-- The text after a character; `parts` says whether an underscore may follow that. -/
  go (parts : Bool) : List Char → Option (List Char)
    | [] => some []
    | '_' :: c :: cs => if parts && isDigit c then (go true cs).map (c :: ·) else none
    | c :: cs => if c = '_' then none else (go (isDigit c) cs).map (c :: ·)

/-- Whether a character is a digit of a base. -/
def isDigitOf (base : Nat) (c : Char) : Bool :=
  (Text.hexValue? c).any (· < base)

/-- The number that digits of a base stand for. -/
def numberOf (base : Nat) (digits : List Char) : Nat :=
  digits.foldl (fun n c => base * n + (Text.hexValue? c).getD 0) 0

/-- The number that a text stands for in a base, if it is made of digits of the base. -/
def numberOf? (base : Nat) (text : List Char) : Option Int :=
  if !text.isEmpty && text.all (isDigitOf base) then some (numberOf base text) else none

/-- The sign at the start of a text, and the text without it. -/
def readSign : List Char → Option Char × List Char
  | '+' :: cs => (some '+', cs)
  | '-' :: cs => (some '-', cs)
  | cs => (none, cs)

/-- A number with its sign. -/
def applySign (sign : Option Char) (n : Int) : Int :=
  if sign = some '-' then -n else n

/-- An integer in base ten after its sign. The places of its underscores are looked at as if it had hexadecimal
digits; where it does have some, it stands for no number. -/
def integer? (text : List Char) : Option Value :=
  (joined? Text.isHexDigit text).map fun joined =>
    let (sign, digits) := readSign joined
    .integer ((numberOf? 10 digits).map (applySign sign))

/-- An integer in another base after its mark; without digits it stands for no number. -/
def radixInteger? (base : Nat) (text : List Char) : Option Value :=
  if text.all fun c => c == '_' || isDigitOf base c then
    (joined? Text.isHexDigit text).map fun joined => .integer (numberOf? base joined)
  else none

/-- Whether a character may stand among the digits of a part of a number. -/
def isDigitOrGap (c : Char) : Bool :=
  c.isDigit || c == '_'

/-- The digits at the start of a text, at least one, and what follows them. -/
def digits? (text : List Char) : Option (List Char × List Char) :=
  let digits := (text.takeWhile isDigitOrGap).filter Char.isDigit
  if digits.isEmpty then none else some (digits, text.dropWhile isDigitOrGap)

/-- The digits of a fraction, none if there is no point, and what follows them. -/
def fraction? : List Char → Option (List Char × List Char)
  | '.' :: cs => digits? cs
  | cs => some ([], cs)

/-- The exponent of a number up to its end: none is zero, and one is read after its letter. -/
def exponent? : List Char → Option Int
  | [] => some 0
  | c :: cs =>
    if c = 'e' || c = 'E' then
      let (sign, unsigned) := readSign cs
      (digits? unsigned).bind fun (digits, rest) =>
        if rest.isEmpty then some (applySign sign (numberOf 10 digits)) else none
    else none

/-- A number with a fraction or an exponent. The first of several digits before the point is not zero. -/
def float? (text unsigned : List Char) : Option Value := do
  guard (joined? Char.isDigit text).isSome
  let (whole, rest) ← digits? unsigned
  guard (whole.length = 1 || unsigned.head? != some '0')
  let (fraction, rest) ← fraction? rest
  let exponent ← exponent? rest
  some (.float (.decimal ⟨numberOf 10 (whole ++ fraction), exponent - fraction.length⟩))

/-- The number of two digits. -/
def twoDigits? (a b : Char) : Option Nat :=
  if a.isDigit && b.isDigit then some (numberOf 10 [a, b]) else none

/-- The number of days of a month. -/
def daysIn (year month : Nat) : Nat :=
  if month = 2 then (if year % 4 = 0 && (year % 100 != 0 || year % 400 = 0) then 29 else 28)
  else if month = 4 || month = 6 || month = 9 || month = 11 then 30
  else 31

/-- Reads a date; what follows it. -/
def date? : List Char → Option (List Char)
  | a :: b :: c :: d :: '-' :: e :: f :: '-' :: g :: h :: rest =>
    (twoDigits? a b).bind fun century => (twoDigits? c d).bind fun years =>
    (twoDigits? e f).bind fun month => (twoDigits? g h).bind fun day =>
      if 1 ≤ month && month ≤ 12 && 1 ≤ day && day ≤ daysIn (100 * century + years) month then some rest else none
  | _ => none

/-- Reads a fraction of a second after its point; what follows it. -/
def secondFraction? (text : List Char) : Option (List Char) :=
  match text.takeWhile Char.isDigit with
  | [] => none
  | _ => some (text.dropWhile Char.isDigit)

/-- Reads a time of day, whose seconds may be missing; what follows it. -/
def timeOfDay? : List Char → Option (List Char)
  | a :: b :: ':' :: c :: d :: rest =>
    (twoDigits? a b).bind fun hour => (twoDigits? c d).bind fun minute =>
      if hour ≤ 23 && minute ≤ 59 then
        match rest with
        | ':' :: e :: f :: rest => (twoDigits? e f).bind fun second =>
          if second ≤ 60 then
            match rest with
            | '.' :: more => secondFraction? more
            | rest => some rest
          else none
        | rest => some rest
      else none
  | _ => none

/-- Whether a text is an offset from universal time. -/
def isZone : List Char → Bool
  | ['Z'] => true
  | ['z'] => true
  | [sign, a, b, ':', c, d] =>
    (sign == '+' || sign == '-') &&
      match twoDigits? a b, twoDigits? c d with
      | some hour, some minute => hour ≤ 23 && minute ≤ 59
      | _, _ => false
  | _ => false

/-- Whether a text is a date, a time of day, or both with or without an offset. -/
def isTime (text : List Char) : Bool :=
  match date? text with
  | some [] => true
  | some (separator :: rest) =>
    (separator == 'T' || separator == 't' || separator == ' ') &&
      match timeOfDay? rest with
      | some [] => true
      | some zone => isZone zone
      | none => false
  | none => timeOfDay? text == some []

/-- A number or time. What follows the first digits tells which it is: a time has a dash or a colon there, and a number
with a point or an exponent is no integer. -/
def numeral? (text unsigned : List Char) : Option Value :=
  match unsigned.dropWhile Char.isDigit with
  | [] => if unsigned.length = 1 || unsigned.head? != some '0' then integer? text else none
  | c :: rest =>
    if c = '-' || c = ':' then if isTime text then some .time else none
    else if (c :: rest).any fun c => c == '.' || c == 'e' || c == 'E' then float? text unsigned
    else if c = '_' && unsigned.head? != some '0' then integer? text
    else none

/-- The value that is written without quotes or brackets. A number in another base than ten has no sign. -/
def scalarOf? (text : List Char) : Option Value :=
  if text = "true".toList then some (.boolean true)
  else if text = "false".toList then some (.boolean false)
  else
    let (sign, unsigned) := readSign text
    match unsigned with
    | [] => none
    | ['i', 'n', 'f'] => some (.float .infinity)
    | ['n', 'a', 'n'] => some (.float .notANumber)
    | '0' :: 'x' :: cs => if sign.isNone then radixInteger? 16 cs else none
    | '0' :: 'o' :: cs => if sign.isNone then radixInteger? 8 cs else none
    | '0' :: 'b' :: cs => if sign.isNone then radixInteger? 2 cs else none
    | _ => numeral? text unsigned

/-- The characters that end a value without quotes or brackets. -/
def scalarEnds : List Char :=
  ['=', ',', '[', ']', '\x7b', '\x7d', ' ', '\t', '#', '\r', '\n']

/-- Whether a character may stand in a value without quotes or brackets. -/
def isScalarChar (c : Char) : Bool :=
  !scalarEnds.contains c

/-- Reads a value without quotes or brackets. A date and a time of day may have a blank between them. -/
def scalar (text : List Char) : Option (Value × List Char) :=
  let written := text.takeWhile isScalarChar
  match date? written, text.dropWhile isScalarChar with
  | some [], ' ' :: c :: rest =>
    if c.isDigit then
      let later := (c :: rest).takeWhile isScalarChar
      (scalarOf? (written ++ ' ' :: later)).map (·, (c :: rest).dropWhile isScalarChar)
    else some (.time, ' ' :: c :: rest)
  | _, rest => (scalarOf? written).map (·, rest)

end FigureGallery.Toml
