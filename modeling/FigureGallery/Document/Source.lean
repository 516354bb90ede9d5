import FigureGallery.FileTree
import FigureGallery.Text.LineBreak

/-!
# Where documents are read from

Editors hold documents whose text may differ from the file. Such a buffer wins over the file; everything else is read
from the file tree. A document that is neither open nor a file reads as the empty text, and line breaks are unified
in whatever is read.
-/

namespace FigureGallery

/-- The texts of the open documents. Two spellings of a path with the same steps name one buffer. -/
structure Buffers where
  entries : List (List Path.Component × String)

namespace Buffers

/-- No document is open. -/
def empty : Buffers := ⟨[]⟩

/-- The text of an open document. -/
def get? (buffers : Buffers) (p : Path) : Option String :=
  buffers.entries.lookup p.components

/-- Whether a document is open. -/
def contains (buffers : Buffers) (p : Path) : Bool :=
  (buffers.get? p).isSome

/-- Forgets a document. -/
def erase (buffers : Buffers) (p : Path) : Buffers :=
  ⟨buffers.entries.filter fun entry => entry.1 != p.components⟩

/-- Opens a document, or replaces the text of one that is open. -/
def set (buffers : Buffers) (p : Path) (text : String) : Buffers :=
  ⟨(p.components, text) :: (buffers.erase p).entries⟩

/-- A forgotten document is not open, and the others are as they were. -/
theorem get?_erase (buffers : Buffers) (p q : Path) :
    (buffers.erase p).get? q = if q.components = p.components then none else buffers.get? q := by
  obtain ⟨entries⟩ := buffers
  simp only [get?, erase]
  induction entries with
  | nil => simp
  | cons entry entries ih =>
    obtain ⟨key, text⟩ := entry
    by_cases forgotten : key = p.components
    · subst forgotten
      by_cases h : q.components = p.components
      · simpa [h] using ih
      · simpa [List.lookup_cons, beq_eq_false_iff_ne.mpr h, h] using ih
    · by_cases here : q.components = key
      · simp [here, forgotten]
      · simpa [List.lookup_cons, beq_eq_false_iff_ne.mpr here, forgotten] using ih

/-- A document that is set has its text, and the others are as they were. -/
theorem get?_set (buffers : Buffers) (p q : Path) (text : String) :
    (buffers.set p text).get? q = if q.components = p.components then some text else buffers.get? q := by
  by_cases h : q.components = p.components
  · simp [get?, set, h]
  · have others := get?_erase buffers p q
    rw [if_neg h] at others
    rw [if_neg h, ← others]
    simp [get?, set, List.lookup_cons, beq_eq_false_iff_ne.mpr h]

end Buffers

/-- Open documents over a file tree. -/
structure Source where
  tree : FileTree
  buffers : Buffers

namespace Source

/-- A file tree with no document open. -/
def ofTree (tree : FileTree) : Source :=
  ⟨tree, .empty⟩

/-- The text of a document as it is stored, before line breaks are unified. -/
def stored (source : Source) (p : Path) : Except FileError String :=
  match source.buffers.get? p with
  | some text => .ok text
  | none => if source.tree.isFile p then source.tree.readText p else .ok ""

/-- The text of a document. -/
def read (source : Source) (p : Path) : Except FileError (List Char) :=
  (source.stored p).map fun text => Text.unifyLineBreaks text.toList

/-- Whether a document is open or a file. -/
def isReachable (source : Source) (p : Path) : Bool :=
  source.buffers.contains p || source.tree.isFile p

end Source

end FigureGallery
