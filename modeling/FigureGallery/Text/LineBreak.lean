/-!
# Line breaks

Documents may be stored with line feeds, carriage returns or pairs of both. Before anything is read from them,
every line break becomes one line feed.
-/

namespace FigureGallery.Text

/-- Writes every line break (a carriage return with a line feed, either of them alone) as one line feed. -/
def unifyLineBreaks : List Char → List Char
  | [] => []
  | '\r' :: '\n' :: cs => '\n' :: unifyLineBreaks cs
  | c :: cs => (if c = '\r' then '\n' else c) :: unifyLineBreaks cs

/-- The number of line feeds of a text. -/
def lineFeeds (cs : List Char) : Nat :=
  cs.count '\n'

/-- No carriage return is left. -/
theorem not_mem_unifyLineBreaks (cs : List Char) : '\r' ∉ unifyLineBreaks cs := by
  fun_induction unifyLineBreaks cs with
  | case1 => simp
  | case2 cs ih => simpa using ih
  | case3 c cs hc ih =>
    by_cases h : c = '\r'
    · simp [h, ih]
    · simp [h, ih, Ne.symm h]

/-- A text without carriage returns is left as it is. -/
theorem unifyLineBreaks_of_not_mem {cs : List Char} (h : '\r' ∉ cs) : unifyLineBreaks cs = cs := by
  fun_induction unifyLineBreaks cs with
  | case1 => rfl
  | case2 cs ih => simp at h
  | case3 c cs hc ih =>
    rw [List.mem_cons, not_or] at h
    rw [if_neg (Ne.symm h.1), ih h.2]

end FigureGallery.Text
