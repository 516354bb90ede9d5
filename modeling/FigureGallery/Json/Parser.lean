import FigureGallery.Json.Number
import FigureGallery.Json.Value
import FigureGallery.Text.Hexadecimal

/-!
# Reading JSON

Reads a text as one JSON value. Control characters in strings, numbers with leading zeros, and anything after the value
but blanks are refused.
-/

namespace FigureGallery.Json

/-- Whether a character may stand between the parts of a value. -/
def isSpace (c : Char) : Bool :=
  c == ' ' || c == '\t' || c == '\n' || c == '\r'

/-- A text without the blanks at its start. -/
def skip (text : List Char) : List Char :=
  text.dropWhile isSpace

/-- The character of an escape of one letter. -/
def letterEscape? : Char → Option Char
  | '"' => some '"'
  | '\\' => some '\\'
  | '/' => some '/'
  | 'b' => some '\x08'
  | 'f' => some '\x0c'
  | 'n' => some '\n'
  | 'r' => some '\r'
  | 't' => some '\t'
  | _ => none

/-- Whether a unit starts a pair of surrogates. -/
def isHighSurrogate (n : Nat) : Bool := 0xD800 ≤ n && n ≤ 0xDBFF

/-- Whether a unit ends a pair of surrogates. -/
def isLowSurrogate (n : Nat) : Bool := 0xDC00 ≤ n && n ≤ 0xDFFF

/-- Reads an escape after its backslash: the character, which is missing for a surrogate without its partner, and what
follows. -/
def escape? : List Char → Option (Option Char × List Char)
  | 'u' :: a :: b :: c :: d :: rest => (Text.hexNumber? [a, b, c, d]).bind fun first =>
    if isHighSurrogate first then
      match rest with
      | '\\' :: 'u' :: e :: f :: g :: h :: later => (Text.hexNumber? [e, f, g, h]).map fun second =>
        if isLowSurrogate second then
          (some (Char.ofNat (0x10000 + (first - 0xD800) * 0x400 + (second - 0xDC00))), later)
        else (none, rest)
      | _ => some (none, rest)
    else if isLowSurrogate first then some (none, rest)
    else some (some (Char.ofNat first), rest)
  | c :: rest => (letterEscape? c).map fun e => (some e, rest)
  | [] => none

/-- Reads a string after its opening quote, in at most `fuel` steps: its characters after those in `read`, the last
first, and what follows. The characters are missing when the string is no text. -/
def chars? : (fuel : Nat) → (read : Option (List Char)) → List Char → Option (Option (List Char) × List Char)
  | 0, _, _ => none
  | _ + 1, _, [] => none
  | _ + 1, read, '"' :: rest => some (read.map List.reverse, rest)
  | fuel + 1, read, '\\' :: rest => (escape? rest).bind fun (c, rest) =>
    chars? fuel (read.bind fun cs => c.map (· :: cs)) rest
  | fuel + 1, read, c :: rest => if c.toNat < 0x20 then none else chars? fuel (read.map (c :: ·)) rest

/-- Reads a string after its opening quote. -/
def text? (text : List Char) : Option (Option String × List Char) :=
  (chars? (text.length + 1) (some []) text).map fun (cs, rest) => (cs.map String.ofList, rest)

/-- The number that decimal digits stand for. -/
def numberOf (digits : List Char) : Nat :=
  digits.foldl (fun n c => 10 * n + (c.toNat - '0'.toNat)) 0

/-- Reads digits, of which there has to be one. -/
def digits? (text : List Char) : Option (List Char × List Char) :=
  match text.takeWhile Char.isDigit with
  | [] => none
  | ds => some (ds, text.dropWhile Char.isDigit)

/-- Reads the fraction of a number, if there is one. -/
def fraction? : List Char → Option (Option (List Char) × List Char)
  | '.' :: rest => (digits? rest).map fun (ds, rest) => (some ds, rest)
  | rest => some (none, rest)

/-- Reads the exponent of a number, if there is one. -/
def exponent? : List Char → Option (Option Exponent × List Char)
  | c :: rest =>
    if c = 'e' || c = 'E' then
      match rest with
      | '-' :: rest => (digits? rest).map fun (ds, rest) => (some ⟨true, numberOf ds⟩, rest)
      | '+' :: rest => (digits? rest).map fun (ds, rest) => (some ⟨false, numberOf ds⟩, rest)
      | rest => (digits? rest).map fun (ds, rest) => (some ⟨false, numberOf ds⟩, rest)
    else some (none, c :: rest)
  | [] => some (none, [])

/-- The value of a number. Zero with a minus sign is no integer. -/
def numberValue (negative : Bool) (whole : List Char) (fraction : Option (List Char)) (exponent : Option Exponent) :
    Json :=
  let n := numberOf whole
  let isInteger := fraction.isNone && exponent.isNone &&
    if negative then 0 < n && Width.fitsSigned 64 (-(n : Int)) else Width.fitsUnsigned 64 n
  if isInteger then .integer (if negative then -(n : Int) else n)
  else (magnitude? whole (fraction.getD []) exponent).elim .valueless fun a => .real ⟨negative, a⟩

/-- Reads a number without its sign. -/
def number? (negative : Bool) (text : List Char) : Option (Json × List Char) :=
  (digits? text).bind fun (digits, later) =>
    let (whole, rest) := match digits with
      | '0' :: more => (['0'], more ++ later)
      | digits => (digits, later)
    if rest.head?.any Char.isDigit then none
    else (fraction? rest).bind fun (fraction, rest) => (exponent? rest).map fun (exponent, rest) =>
      (numberValue negative whole fraction exponent, rest)

/-- Reads a word that stands for a value. -/
def word? (word : String) (j : Json) (text : List Char) : Option (Json × List Char) :=
  (word.toList.isPrefixOf? text).map fun rest => (j, rest)

mutual

/-- Reads a value, in at most `fuel` steps. -/
def value? : (fuel : Nat) → List Char → Option (Json × List Char)
  | 0, _ => none
  | fuel + 1, text => match skip text with
    | '"' :: rest => (text? rest).map fun (t, rest) => (t.elim .valueless .string, rest)
    | '[' :: rest => match skip rest with
      | ']' :: rest => some (.array [], rest)
      | rest => (itemsOf? fuel [] rest).map fun (items, rest) => (.array items, rest)
    | '\x7b' :: rest => match skip rest with
      | '\x7d' :: rest => some (.object [], rest)
      | rest => (entriesOf? fuel (some []) rest).map fun (entries, rest) => (entries.elim .valueless .object, rest)
    | '-' :: rest => number? true rest
    | 't' :: rest => word? "true" (.bool true) ('t' :: rest)
    | 'f' :: rest => word? "false" (.bool false) ('f' :: rest)
    | 'n' :: rest => word? "null" .null ('n' :: rest)
    | rest => number? false rest

/-- Reads the items of an array and its closing bracket, after those in `read`, the last first. -/
def itemsOf? : (fuel : Nat) → (read : List Json) → List Char → Option (List Json × List Char)
  | 0, _, _ => none
  | fuel + 1, read, text => (value? fuel text).bind fun (j, rest) => match skip rest with
    | ',' :: rest => itemsOf? fuel (j :: read) rest
    | ']' :: rest => some ((j :: read).reverse, rest)
    | _ => none

/-- Reads the entries of an object and its closing brace, after those in `read`, the last first. The entries are missing
when some key is no text. -/
def entriesOf? : (fuel : Nat) → (read : Option (List (String × Json))) → List Char →
    Option (Option (List (String × Json)) × List Char)
  | 0, _, _ => none
  | fuel + 1, read, text => match skip text with
    | '"' :: rest => (text? rest).bind fun (key, rest) => match skip rest with
      | ':' :: rest => (value? fuel rest).bind fun (j, rest) =>
        let read := read.bind fun entries => key.map fun key => (key, j) :: entries
        match skip rest with
        | ',' :: rest => entriesOf? fuel read rest
        | '\x7d' :: rest => some (read.map List.reverse, rest)
        | _ => none
      | _ => none
    | _ => none

end

/-- The value that a text stands for. -/
def parse (text : List Char) : Option Json :=
  match value? (2 * text.length + 2) text with
  | some (j, rest) => if (skip rest).isEmpty then some j else none
  | none => none

end FigureGallery.Json
