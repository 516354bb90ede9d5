import FigureGallery.Json.Number
import FigureGallery.Json.Value
import FigureGallery.Text.Hexadecimal

/-!
# Compact JSON texts

Writes a value on one line without blanks. In strings only quotes, backslashes and control characters are escaped.
-/

namespace FigureGallery.Json

/-- The written form of a character in a string. -/
def escape (c : Char) : List Char :=
  match c with
  | '"' => ['\\', '"']
  | '\\' => ['\\', '\\']
  | '\x08' => ['\\', 'b']
  | '\x0c' => ['\\', 'f']
  | '\n' => ['\\', 'n']
  | '\r' => ['\\', 'r']
  | '\t' => ['\\', 't']
  | c =>
    if c.toNat < 0x20 then
      ['\\', 'u', '0', '0', Text.lowerHexDigit (c.toNat / 16), Text.lowerHexDigit (c.toNat % 16)]
    else [c]

/-- The written form of a string. -/
def quote (text : String) : List Char :=
  '"' :: (text.toList.flatMap escape ++ ['"'])

mutual

/-- The written form of a value. -/
def render : Json → List Char
  | .null => "null".toList
  | .bool true => "true".toList
  | .bool false => "false".toList
  | .integer n => (toString n).toList
  | .real x => realText x
  | .valueless => "null".toList
  | .string text => quote text
  | .array [] => ['[', ']']
  | .array (j :: js) => '[' :: (j.render ++ renderItems js)
  | .object [] => ['\x7b', '\x7d']
  | .object ((key, j) :: es) => '\x7b' :: (quote key ++ ':' :: (j.render ++ renderEntries es))

/-- The written form of the items after the first, with the closing bracket. -/
def renderItems : List Json → List Char
  | [] => [']']
  | j :: js => ',' :: (j.render ++ renderItems js)

/-- The written form of the entries after the first, with the closing brace. -/
def renderEntries : List (String × Json) → List Char
  | [] => ['\x7d']
  | (key, j) :: es => ',' :: (quote key ++ ':' :: (j.render ++ renderEntries es))

end

/-- The text of a value, on one line. -/
def compact (j : Json) : String :=
  String.ofList j.render

end FigureGallery.Json
