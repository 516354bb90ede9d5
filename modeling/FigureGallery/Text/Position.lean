import FigureGallery.Text.Offset

/-!
# Editor positions

Editors name a place by a line and a column, both counted from zero. The column counts UTF-16 code units. A
position that lies on no character boundary of the text has no offset.
-/

namespace FigureGallery.Text

/-- A line and a UTF-16 column, both counted from zero. -/
structure Position where
  line : Nat
  column : Nat
deriving DecidableEq, Repr

/-- A stretch of a text between two positions. -/
structure Range where
  start : Position
  stop : Position
deriving DecidableEq, Repr

/-- The number of UTF-16 code units of a character. -/
def units16 (c : Char) : Nat :=
  if c.toNat < 0x10000 then 1 else 2

namespace Position

/-- The offset of a column in the line that starts at `offset`. -/
def columnOffset? : (column offset : Nat) → List Char → Option Nat
  | 0, offset, _ => some offset
  | _ + 1, _, [] => none
  | n + 1, offset, c :: cs =>
    if c = '\n' then none
    else if units16 c ≤ n + 1 then columnOffset? (n + 1 - units16 c) (offset + c.utf8Size) cs
    else none

/-- The offset of a line and column in a text that itself starts at `offset`. -/
def offsetFrom? : (line column offset : Nat) → List Char → Option Nat
  | 0, column, offset, cs => columnOffset? column offset cs
  | _ + 1, _, _, [] => none
  | n + 1, column, offset, c :: cs =>
    offsetFrom? (if c = '\n' then n else n + 1) column (offset + c.utf8Size) cs

/-- The byte offset of a position in a text, if there is a character boundary there. -/
def offset? (cs : List Char) (p : Position) : Option Nat :=
  offsetFrom? p.line p.column 0 cs

end Position

end FigureGallery.Text
