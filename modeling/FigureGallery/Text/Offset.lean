/-!
# Byte offsets

A text is a list of characters; places in it are counted in bytes of its UTF-8 form. An offset is a boundary
when it does not fall inside a character.
-/

namespace FigureGallery.Text

/-- The number of bytes of a text in UTF-8. -/
def byteLength : List Char → Nat
  | [] => 0
  | c :: cs => c.utf8Size + byteLength cs

/-- The longest start of a text that ends at or before a byte offset. -/
def before : Nat → List Char → List Char
  | _, [] => []
  | n, c :: cs => if c.utf8Size ≤ n then c :: before (n - c.utf8Size) cs else []

/-- What follows that start; a character that straddles the offset is its first. -/
def after : Nat → List Char → List Char
  | _, [] => []
  | n, c :: cs => if c.utf8Size ≤ n then after (n - c.utf8Size) cs else c :: cs

/-- Whether a byte offset lies on a character boundary of a text. -/
def isBoundary (n : Nat) (cs : List Char) : Bool :=
  byteLength (before n cs) == n

/-- Replaces the text between two byte offsets that are boundaries in order. -/
def splice (start stop : Nat) (inserted cs : List Char) : List Char :=
  before start cs ++ inserted ++ after stop cs

/-- Nothing is lost in a cut. -/
theorem before_append_after (n : Nat) (cs : List Char) : before n cs ++ after n cs = cs := by
  fun_induction before n cs with
  | case1 => simp [after]
  | case2 n c cs h ih => simp [after, h, ih]
  | case3 n c cs h => simp [after, h]

/-- A cut never takes more than was asked for. -/
theorem byteLength_before_le (n : Nat) (cs : List Char) : byteLength (before n cs) ≤ n := by
  fun_induction before n cs with
  | case1 => simp [byteLength]
  | case2 n c cs h ih => simp only [byteLength]; omega
  | case3 => simp [byteLength]

@[simp]
theorem byteLength_append (xs ys : List Char) : byteLength (xs ++ ys) = byteLength xs + byteLength ys := by
  induction xs with
  | nil => simp [byteLength]
  | cons c cs ih => simp only [List.cons_append, byteLength, ih]; omega

end FigureGallery.Text
