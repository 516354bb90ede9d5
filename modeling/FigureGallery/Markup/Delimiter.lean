import FigureGallery.Text.Offset

/-!
# Balanced delimiters

The search for the delimiter that closes an opened block. It is purely textual: delimiters inside strings and comments
count like any others.
-/

namespace FigureGallery.Markup

/-- A pair of delimiters. -/
structure Delimiters where
  opening : Char
  closing : Char
deriving DecidableEq

/-- The delimiters of a call. -/
def Delimiters.parentheses : Delimiters := ⟨'(', ')'⟩

/-- A block that is closed by a balanced delimiter, with the text between the two. -/
structure Block where
  /-- The offset just after the opening delimiter. -/
  start : Nat
  /-- The offset of the closing delimiter. -/
  close : Nat
  body : List Char
deriving DecidableEq

/-- Why no block starts at an offset. -/
inductive BlockError where
  /-- No delimiter brings the depth back to zero. -/
  | unbalanced (offset : Nat)
  /-- The offset lies inside a character, so there is no text between the delimiters. -/
  | insideCharacter (offset : Nat)
deriving DecidableEq

namespace Delimiters

/-- The text up to the delimiter that closes `depth` open blocks, the last characters read first in `read`. A
delimiter that both opens and closes always opens. -/
def bodyOf? (d : Delimiters) (depth : Nat) (read : List Char) : List Char → Option (List Char)
  | [] => none
  | c :: cs =>
    if c = d.opening then d.bodyOf? (depth + 1) (c :: read) cs
    else if c = d.closing then
      if depth ≤ 1 then some read.reverse else d.bodyOf? (depth - 1) (c :: read) cs
    else d.bodyOf? depth (c :: read) cs

/-- The characters of a text that start at or after an offset. -/
def textFrom (start : Nat) (text : List Char) : List Char :=
  if Text.isBoundary start text then Text.after start text else (Text.after start text).drop 1

/-- The block that is opened just before `start`. -/
def block (d : Delimiters) (text : List Char) (start : Nat) : Except BlockError Block :=
  match d.bodyOf? 1 [] (textFrom start text) with
  | none => .error (.unbalanced start)
  | some body =>
    if Text.isBoundary start text then .ok ⟨start, start + Text.byteLength body, body⟩
    else .error (.insideCharacter start)

end Delimiters

end FigureGallery.Markup
