import FigureGallery.Proofs.Text.Cut
import FigureGallery.Text.LineBreak
import FigureGallery.Text.Position
import Mathlib.Algebra.GroupWithZero.Nat
import Mathlib.Data.List.Basic
import Mathlib.Data.List.TakeWhile

/-!
# Positions and cuts

A position is reached behind a start of a text: its line is the number of line feeds in this start, and its column the
number of UTF-16 units behind the last of them. The offset of a position is the byte length of the start behind which it
is reached, so that positions that exist and cuts of a text are the same, in the same order.
-/

namespace FigureGallery.Text

/-- The number of UTF-16 code units of a text. -/
def unitLength (cs : List Char) : Nat :=
  (cs.map units16).sum

/-- What follows the last line feed of a text. -/
def lastLine (cs : List Char) : List Char :=
  (cs.reverse.takeWhile (· != '\n')).reverse

/-- The position that is reached behind a text. -/
def endOf (cs : List Char) : Position where
  line := lineFeeds cs
  column := unitLength (lastLine cs)

@[simp]
lemma unitLength_nil : unitLength [] = 0 := rfl

@[simp]
lemma unitLength_cons (c : Char) (cs : List Char) : unitLength (c :: cs) = units16 c + unitLength cs := by
  simp [unitLength]

/-- A character has a unit at least. -/
lemma units16_pos (c : Char) : 0 < units16 c := by
  unfold units16
  split <;> omega

/-- Only the empty text has no units. -/
lemma unitLength_eq_zero {cs : List Char} : unitLength cs = 0 ↔ cs = [] := by
  cases cs with
  | nil => simp
  | cons c cs =>
    have := units16_pos c
    simp only [unitLength_cons, reduceCtorEq, iff_false]
    omega

/-- Text without line feeds goes on with the last line. -/
lemma lastLine_append_of_notMem (a : List Char) {b : List Char} (h : '\n' ∉ b) :
    lastLine (a ++ b) = lastLine a ++ b := by
  have all : ∀ c ∈ b.reverse, (c != '\n') = true := by
    intro c mem
    simp only [bne_iff_ne, ne_eq]
    rintro rfl
    exact h (List.mem_reverse.mp mem)
  rw [lastLine, List.reverse_append, List.takeWhile_append_of_pos all, List.reverse_append, List.reverse_reverse]
  rfl

/-- A text without line feeds is one line. -/
lemma lastLine_of_notMem {cs : List Char} (h : '\n' ∉ cs) : lastLine cs = cs :=
  lastLine_append_of_notMem [] h

/-- The last line follows the last line feed. -/
lemma lastLine_append {a b : List Char} (h : '\n' ∉ b) : lastLine (a ++ '\n' :: b) = b := by
  have empty : lastLine (a ++ ['\n']) = [] := by simp [lastLine]
  rw [List.append_cons, lastLine_append_of_notMem _ h, empty, List.nil_append]

/-- The last line stands at the end of a text. -/
lemma exists_eq_append_lastLine (cs : List Char) : ∃ front, cs = front ++ lastLine cs := by
  refine ⟨(cs.reverse.dropWhile (· != '\n')).reverse, ?_⟩
  rw [lastLine, ← List.reverse_append, List.takeWhile_append_dropWhile, List.reverse_reverse]

/-- The last line has no line feed. -/
lemma notMem_lastLine (cs : List Char) : '\n' ∉ lastLine cs := by
  intro mem
  simpa using List.mem_takeWhile_imp (List.mem_reverse.mp mem)

/-- A text with a line feed, cut at the last one. -/
lemma exists_eq_append_of_mem {cs : List Char} (h : '\n' ∈ cs) : ∃ a b, cs = a ++ '\n' :: b ∧ '\n' ∉ b := by
  obtain ⟨a, b, e, notMem⟩ := List.eq_append_cons_of_mem (List.mem_reverse.mpr h)
  refine ⟨b.reverse, a.reverse, ?_, by simpa using notMem⟩
  simpa using congrArg List.reverse e

/-- What stands in front of a line feed does not count for the last line. -/
lemma lastLine_cons_of_mem (c : Char) {cs : List Char} (h : '\n' ∈ cs) : lastLine (c :: cs) = lastLine cs := by
  obtain ⟨a, b, rfl, notMem⟩ := exists_eq_append_of_mem h
  rw [← List.cons_append, lastLine_append notMem, lastLine_append notMem]

/-- A line feed starts a line, whatever stands in front of it. -/
lemma lastLine_append_lineFeed (a b : List Char) : lastLine (a ++ '\n' :: b) = lastLine b := by
  by_cases h : '\n' ∈ b
  · obtain ⟨c, d, rfl, notMem⟩ := exists_eq_append_of_mem h
    rw [← List.cons_append, ← List.append_assoc, lastLine_append notMem, lastLine_append notMem]
  · rw [lastLine_append h, lastLine_of_notMem h]

lemma lastLine_lineFeed (cs : List Char) : lastLine ('\n' :: cs) = lastLine cs :=
  lastLine_append_lineFeed [] cs

/-- A text without line feeds has none. -/
lemma lineFeeds_eq_zero {cs : List Char} : lineFeeds cs = 0 ↔ '\n' ∉ cs :=
  List.count_eq_zero

@[simp]
lemma lineFeeds_append (a b : List Char) : lineFeeds (a ++ b) = lineFeeds a + lineFeeds b :=
  List.count_append

@[simp]
lemma unitLength_append (a b : List Char) : unitLength (a ++ b) = unitLength a + unitLength b := by
  simp [unitLength]

namespace Position

/-- A position comes before another one, or is the same: its line does, or its column on the same line. -/
def Precedes (p q : Position) : Prop :=
  p.line < q.line ∨ p.line = q.line ∧ p.column ≤ q.column

/-- More text is never followed by an earlier position, and by the same one only if it is empty. -/
lemma eq_nil_of_precedes {a b : List Char} (h : (endOf (a ++ b)).Precedes (endOf a)) : b = [] := by
  by_cases feed : '\n' ∈ b
  · have more : 0 < lineFeeds b := Nat.pos_of_ne_zero fun none => lineFeeds_eq_zero.mp none feed
    simp only [Precedes, endOf, lineFeeds_append] at h
    omega
  · have same : lineFeeds b = 0 := lineFeeds_eq_zero.mpr feed
    simp only [Precedes, endOf, lineFeeds_append, lastLine_append_of_notMem a feed, unitLength_append] at h
    exact unitLength_eq_zero.mp (by omega)

/-- Of two positions in a text, the one that comes first is reached behind the shorter start. -/
lemma exists_eq_append_of_precedes {pre post pre' post' : List Char} (e : pre ++ post = pre' ++ post')
    (h : (endOf pre).Precedes (endOf pre')) : ∃ mid, pre' = pre ++ mid ∧ post = mid ++ post' := by
  obtain ⟨mid, rfl, rest⟩ | ⟨mid, rfl, rest⟩ := List.append_eq_append_iff.mp e
  · exact ⟨mid, rfl, rest⟩
  · obtain rfl := eq_nil_of_precedes h
    exact ⟨[], by simp, by simpa using rest.symm⟩

/-- A column has the offset of the start of the line with so many units. -/
lemma columnOffset?_eq_some_iff {column offset n : Nat} {cs : List Char} :
    columnOffset? column offset cs = some n ↔
      ∃ pre post, cs = pre ++ post ∧ '\n' ∉ pre ∧ unitLength pre = column ∧ n = offset + byteLength pre := by
  fun_induction columnOffset? column offset cs with
  | case1 cs offset =>
    constructor
    · intro h
      exact ⟨[], cs, rfl, by simp, rfl, by simpa using h.symm⟩
    · rintro ⟨pre, post, _, _, units, rfl⟩
      rw [unitLength_eq_zero.mp units, byteLength_nil, Nat.add_zero]
  | case2 offset column =>
    simp only [reduceCtorEq, false_iff, not_exists]
    rintro pre post ⟨e, _, units, _⟩
    obtain ⟨rfl, _⟩ := List.append_eq_nil_iff.mp e.symm
    simp at units
  | case3 column offset cs =>
    -- The line ends here, and with it the columns.
    simp only [reduceCtorEq, false_iff, not_exists]
    rintro (_ | ⟨d, pre⟩) post ⟨e, notMem, units, _⟩
    · simp at units
    · obtain ⟨rfl, _⟩ := List.cons.inj e
      exact notMem List.mem_cons_self
  | case4 column offset c cs notFeed le ih =>
    rw [ih]
    clear ih
    constructor
    · rintro ⟨pre, post, rfl, notMem, units, rfl⟩
      refine ⟨c :: pre, post, rfl, ?_, ?_, ?_⟩
      · exact List.not_mem_cons_of_ne_of_not_mem (Ne.symm notFeed) notMem
      · rw [unitLength_cons]
        omega
      · rw [byteLength_cons]
        omega
    · rintro ⟨_ | ⟨d, pre⟩, post, e, notMem, units, rfl⟩
      · simp at units
      · obtain ⟨rfl, rfl⟩ := List.cons.inj e
        rw [unitLength_cons] at units
        refine ⟨pre, post, rfl, List.not_mem_of_not_mem_cons notMem, by omega, ?_⟩
        rw [byteLength_cons]
        omega
  | case5 column offset c cs notFeed lt =>
    -- The column lies inside the character.
    simp only [reduceCtorEq, false_iff, not_exists]
    rintro (_ | ⟨d, pre⟩) post ⟨e, _, units, _⟩
    · simp at units
    · obtain ⟨rfl, _⟩ := List.cons.inj e
      rw [unitLength_cons] at units
      omega

/-- What a character adds to the position behind it, on a later line: a line if it is a line feed, and else nothing. -/
lemma endOf_cons_iff {c : Char} {cs : List Char} {line column : Nat} :
    endOf (c :: cs) = ⟨line + 1, column⟩ ↔ endOf cs = ⟨if c = '\n' then line else line + 1, column⟩ := by
  simp only [endOf, mk.injEq]
  by_cases feed : c = '\n'
  · subst feed
    rw [if_pos rfl, lastLine_lineFeed, lineFeeds, List.count_cons_self, ← lineFeeds, Nat.add_right_cancel_iff]
  · rw [if_neg feed, lineFeeds, List.count_cons_of_ne feed, ← lineFeeds]
    refine and_congr_right fun feeds => ?_
    -- A line feed follows, so the column is one of a later line than the character's.
    have mem : '\n' ∈ cs := by
      by_contra notMem
      rw [lineFeeds_eq_zero.mpr notMem] at feeds
      omega
    rw [lastLine_cons_of_mem c mem]

/-- A line and a column have the offset of the start of the text behind which they are reached. -/
lemma offsetFrom?_eq_some_iff {line column offset n : Nat} {cs : List Char} :
    offsetFrom? line column offset cs = some n ↔
      ∃ pre post, cs = pre ++ post ∧ endOf pre = ⟨line, column⟩ ∧ n = offset + byteLength pre := by
  fun_induction offsetFrom? line column offset cs with
  | case1 column offset cs =>
    rw [columnOffset?_eq_some_iff]
    simp only [endOf, mk.injEq]
    constructor
    · rintro ⟨pre, post, e, notMem, units, rfl⟩
      exact ⟨pre, post, e, ⟨lineFeeds_eq_zero.mpr notMem, by rw [lastLine_of_notMem notMem, units]⟩, rfl⟩
    · rintro ⟨pre, post, e, ⟨feeds, units⟩, rfl⟩
      have notMem := lineFeeds_eq_zero.mp feeds
      rw [lastLine_of_notMem notMem] at units
      exact ⟨pre, post, e, notMem, units, rfl⟩
  | case2 column offset line =>
    simp only [reduceCtorEq, false_iff, not_exists]
    rintro pre post ⟨e, reached, _⟩
    obtain ⟨rfl, _⟩ := List.append_eq_nil_iff.mp e.symm
    simp [endOf, lineFeeds] at reached
  | case3 line column offset c cs ih =>
    rw [ih]
    clear ih
    constructor
    · rintro ⟨pre, post, rfl, reached, rfl⟩
      refine ⟨c :: pre, post, rfl, endOf_cons_iff.mpr reached, ?_⟩
      rw [byteLength_cons]
      omega
    · rintro ⟨_ | ⟨d, pre⟩, post, e, reached, rfl⟩
      · simp [endOf, lineFeeds] at reached
      · obtain ⟨rfl, rfl⟩ := List.cons.inj e
        refine ⟨pre, post, rfl, endOf_cons_iff.mp reached, ?_⟩
        rw [byteLength_cons]
        omega

/-- A position has the offset of the start of the text behind which it is reached, and none when there is no such
start. -/
lemma offset?_eq_some_iff {p : Position} {cs : List Char} {n : Nat} :
    p.offset? cs = some n ↔ ∃ pre post, cs = pre ++ post ∧ endOf pre = p ∧ n = byteLength pre := by
  rw [offset?, offsetFrom?_eq_some_iff]
  simp only [Nat.zero_add]

end Position

end FigureGallery.Text
