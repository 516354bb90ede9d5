import FigureGallery.Text.Offset

/-!
# Line tables

A table of the offsets at which the lines of a text start, made once per text, and the search in it for the line
of an offset.
-/

namespace FigureGallery.Text

/-- The offsets at which the lines of a text start, in ascending order; the first is zero. -/
structure LineTable where
  starts : Array Nat

namespace LineTable

/-- The offsets just after the line feeds of a text that itself starts at `offset`. -/
def startsAfter : Nat → List Char → List Nat
  | _, [] => []
  | offset, c :: cs =>
    if c = '\n' then (offset + 1) :: startsAfter (offset + 1) cs else startsAfter (offset + c.utf8Size) cs

/-- The line table of a text. -/
def ofText (cs : List Char) : LineTable :=
  ⟨(0 :: startsAfter 0 cs).toArray⟩

/-- What comes of looking for an offset in a table. -/
inductive SearchResult where
  /-- A line starts at the offset, the one with this index. -/
  | found (index : Nat)
  /-- No line starts there; the offset would be inserted at this index. -/
  | absent (index : Nat)
deriving DecidableEq, Repr

/-- Halves the range from `low` to `high` until it meets the offset or the range is empty. -/
def search (starts : Array Nat) (offset low high : Nat) : SearchResult :=
  if low < high then
    let middle := (low + high) / 2
    let start := starts.getD middle 0
    if start = offset then .found middle
    else if start < offset then search starts offset (middle + 1) high
    else search starts offset low middle
  else .absent low
  termination_by high - low

/-- The line that a result stands for, counted from one. An offset that starts no line is on the line before the index at
which it would be inserted. -/
def SearchResult.line : SearchResult → Nat
  | .found index => index + 1
  | .absent index => index

/-- The line that an offset lies on, counted from one. -/
def lineOf (table : LineTable) (offset : Nat) : Nat :=
  (search table.starts offset 0 table.starts.size).line

end LineTable

end FigureGallery.Text
