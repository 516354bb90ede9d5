import FigureGallery.Text.Hexadecimal

/-!
# Keys and strings of TOML

The written forms of strings: basic ones in double quotes with escapes, literal ones in single quotes, and both over
several lines between three quotes. Each reader takes the text after the opening quotes and gives the content with what
follows the closing quotes.
-/

namespace FigureGallery.Toml

/-- Whether a character may stand in a comment or a string: no control character but the tab. -/
def isPrintable (c : Char) : Bool :=
  c == '\t' || (0x20 ≤ c.toNat && c.toNat != 0x7F)

/-- Whether a character is a blank within a line. -/
def isSpace (c : Char) : Bool :=
  c == ' ' || c == '\t'

/-- What follows a line break. -/
def newline? : List Char → Option (List Char)
  | '\n' :: cs => some cs
  | '\r' :: '\n' :: cs => some cs
  | _ => none

/-- The character with a code point, unless that is a surrogate or too large. -/
def scalar? (n : Nat) : Option Char :=
  if h : n.isValidChar then some (Char.ofNatAux n h) else none

/-- The character of an escape with a code point of hexadecimal digits. -/
def escaped? (digits : List Char) : Option Char :=
  (Text.hexNumber? digits).bind scalar?

/-- The character of an escape of one letter. -/
def letterEscape? : Char → Option Char
  | 'b' => some '\x08'
  | 't' => some '\t'
  | 'n' => some '\n'
  | 'f' => some '\x0c'
  | 'r' => some '\r'
  | 'e' => some '\x1b'
  | '"' => some '"'
  | '\\' => some '\\'
  | _ => none

/-- Reads an escape after its backslash. -/
def escape? : List Char → Option (Char × List Char)
  | 'x' :: a :: b :: cs => (escaped? [a, b]).map (·, cs)
  | 'u' :: a :: b :: c :: d :: cs => (escaped? [a, b, c, d]).map (·, cs)
  | 'U' :: a :: b :: c :: d :: e :: f :: g :: h :: cs => (escaped? [a, b, c, d, e, f, g, h]).map (·, cs)
  | c :: cs => (letterEscape? c).map (·, cs)
  | [] => none

/-- What follows blanks and line breaks. A carriage return stands only in a line break. -/
def afterBlank? : List Char → Option (List Char)
  | '\r' :: '\n' :: cs => afterBlank? cs
  | '\r' :: _ => none
  | c :: cs => if isSpace c || c == '\n' then afterBlank? cs else some (c :: cs)
  | [] => some []

/-- Whether a line ends after blanks: what follows the break and all blanks and breaks after it. -/
def foldedLine? (text : List Char) : Option (List Char) :=
  (newline? (text.dropWhile isSpace)).bind afterBlank?

/-- Reads a string on one line up to its closing quote, with at most `fuel` steps; the content is gathered last
character first. -/
def basicString? : (fuel : Nat) → (read : List Char) → List Char → Option (List Char × List Char)
  | 0, _, _ => none
  | _ + 1, read, '"' :: cs => some (read.reverse, cs)
  | fuel + 1, read, '\\' :: cs => (escape? cs).bind fun (c, rest) => basicString? fuel (c :: read) rest
  | fuel + 1, read, c :: cs => if isPrintable c then basicString? fuel (c :: read) cs else none
  | _ + 1, _, [] => none

/-- Reads a literal string on one line. -/
def literalString? (text : List Char) : Option (List Char × List Char) :=
  match text.dropWhile fun c => isPrintable c && c != '\'' with
  | '\'' :: rest => some (text.takeWhile fun c => isPrintable c && c != '\'', rest)
  | _ => none

/-- Reads a string over several lines, in which at most two quotes stand side by side unless they are the last of the
content. A basic one has escapes. Line breaks are kept as they are written. -/
def longString? (quote : Char) (basic : Bool) :
    (fuel : Nat) → (read : List Char) → List Char → Option (List Char × List Char)
  | 0, _, _ => none
  | _ + 1, _, [] => none
  | fuel + 1, read, c :: cs =>
    if c = quote then
      let quotes := min 5 ((c :: cs).takeWhile (· == quote)).length
      if 3 ≤ quotes then some (read.reverse ++ List.replicate (quotes - 3) quote, (c :: cs).drop quotes)
      else longString? quote basic fuel (quote :: read) cs
    else if basic && c = '\\' then
      match foldedLine? cs with
      | some rest => longString? quote basic fuel read rest
      | none => (escape? cs).bind fun (e, rest) => longString? quote basic fuel (e :: read) rest
    else if isPrintable c || (newline? (c :: cs)).isSome then longString? quote basic fuel (c :: read) cs
    else none

/-- Reads a string over several lines; a line break right after the opening quotes does not count. -/
def openedString? (quote : Char) (basic : Bool) (text : List Char) : Option (List Char × List Char) :=
  longString? quote basic (text.length + 1) [] ((newline? text).getD text)

/-- Whether a character may stand in a key without quotes. -/
def isBareKey (c : Char) : Bool :=
  c.isAlphanum || c == '_' || c == '-'

/-- Reads one part of a key. -/
def simpleKey? : List Char → Option (String × List Char)
  | '"' :: cs => (basicString? (cs.length + 1) [] cs).map fun (content, rest) => (String.ofList content, rest)
  | '\'' :: cs => (literalString? cs).map fun (content, rest) => (String.ofList content, rest)
  | cs => match cs.takeWhile isBareKey with
    | [] => none
    | key => some (String.ofList key, cs.dropWhile isBareKey)

/-- Reads the parts of a key with dots between them, at most `parts` of them. -/
def dottedKey? : (parts : Nat) → List Char → Option (List String × List Char)
  | 0, _ => none
  | parts + 1, text => (simpleKey? (text.dropWhile isSpace)).bind fun (key, rest) =>
    match rest.dropWhile isSpace with
    | '.' :: more => (dottedKey? parts more).map fun (keys, rest) => (key :: keys, rest)
    | rest => some ([key], rest)

/-- How many parts a key may have. -/
def maxKeyParts : Nat := 80

/-- Reads a key, with the blanks around it. -/
def key? (text : List Char) : Option (List String × List Char) :=
  dottedKey? maxKeyParts text

/-- Reads a string in any of its forms. -/
def string? : List Char → Option (String × List Char)
  | '"' :: '"' :: '"' :: cs => (openedString? '"' true cs).map fun (content, rest) => (String.ofList content, rest)
  | '\'' :: '\'' :: '\'' :: cs =>
    (openedString? '\'' false cs).map fun (content, rest) => (String.ofList content, rest)
  | '"' :: cs => (basicString? (cs.length + 1) [] cs).map fun (content, rest) => (String.ofList content, rest)
  | '\'' :: cs => (literalString? cs).map fun (content, rest) => (String.ofList content, rest)
  | _ => none

end FigureGallery.Toml
