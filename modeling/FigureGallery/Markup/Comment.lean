import FigureGallery.Text.Offset
import FigureGallery.Markup.Marker

/-!
# Comments

Whether a place in a text is commented out. A line comment is looked for first: two slashes earlier on the same line.
Otherwise the place is in a block comment when a block comment was opened before it and not closed before it. Markers
inside strings count like any others.
-/

namespace FigureGallery.Markup

/-- The kinds of comment. -/
inductive Comment where
  | line
  | block
deriving DecidableEq

namespace Comment

/-- The characters after the last line feed of a text. -/
def lastLine (cs : List Char) : List Char :=
  (cs.reverse.takeWhile (· != '\n')).reverse

/-- Whether a text ends inside a block comment: each opening marker is closed by the next closing marker after it. -/
def leavesBlockOpen (cs : List Char) : Bool :=
  match _opens : afterFirst? ['/', '*'] cs with
  | none => false
  | some opened =>
    match _closes : afterFirst? ['*', '/'] opened with
    | none => true
    | some closed => leavesBlockOpen closed
  termination_by cs.length
  decreasing_by
    have h₁ := length_afterFirst?_le _opens
    have h₂ := length_afterFirst?_le _closes
    simp only [List.length_cons, List.length_nil] at h₁ h₂
    omega

/-- The comment that a text ends in. -/
def atEnd? (cs : List Char) : Option Comment :=
  if holds ['/', '/'] (lastLine cs) then some .line
  else if leavesBlockOpen cs then some .block
  else none

/-- The comment that an offset of a text lies in; an offset inside a character counts as the start of it. -/
def at? (text : List Char) (offset : Nat) : Option Comment :=
  atEnd? (Text.before offset text)

end Comment

end FigureGallery.Markup
