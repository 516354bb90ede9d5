import FigureGallery.Proofs.Text.Position
import Mathlib.Data.List.TakeWhile

/-!
# Positions and boundaries

A boundary of a text is reached at one position, which counts the line feeds before it and the UTF-16 units behind the
last of them. So positions that exist and boundaries are the same, in the same order. Any other position names a line that
the text does not have, a column behind the end of its line, or a column between the two units of a character.
-/

namespace FigureGallery.Text

variable {cs pre post pre' post' : List Char} {n : Nat}

/-- A boundary is a cut of the text. -/
lemma isBoundary_iff : isBoundary n cs ↔ ∃ pre post, cs = pre ++ post ∧ n = byteLength pre := by
  constructor
  · intro boundary
    exact ⟨before n cs, after n cs, (before_append_after n cs).symm, (beq_iff_eq.mp boundary).symm⟩
  · rintro ⟨pre, post, rfl, rfl⟩
    exact isBoundary_byteLength pre post

/-- A line feed ends a line that is empty so far. -/
lemma splitOn_lineFeed (cs : List Char) : ('\n' :: cs).splitOn '\n' = [] :: cs.splitOn '\n' := by
  rw [List.splitOn, List.splitOnP_cons_eq_if_modifyHead, if_pos (beq_self_eq_true _), ← List.splitOn]

/-- Any other character belongs to the first line. -/
lemma splitOn_of_ne {c : Char} (ne : c ≠ '\n') (cs : List Char) :
    (c :: cs).splitOn '\n' = (cs.splitOn '\n').modifyHead (c :: ·) := by
  rw [List.splitOn, List.splitOnP_cons_eq_if_modifyHead, if_neg (by simpa using ne), ← List.splitOn]

/-- A text has one line more than line feeds. -/
lemma length_splitOn (cs : List Char) : (cs.splitOn '\n').length = lineFeeds cs + 1 := by
  induction cs with
  | nil => rfl
  | cons c cs ih =>
    by_cases feed : c = '\n'
    · rw [feed, splitOn_lineFeed, List.length_cons, ih, lineFeeds, lineFeeds, List.count_cons_self]
    · rw [splitOn_of_ne feed, List.length_modifyHead, ih, lineFeeds, lineFeeds, List.count_cons_of_ne feed]

/-- The first line of a text ends in front of its first line feed. -/
lemma getElem?_zero_splitOn (cs : List Char) : (cs.splitOn '\n')[0]? = some (cs.takeWhile (· != '\n')) := by
  induction cs with
  | nil => rfl
  | cons c cs ih =>
    by_cases feed : c = '\n'
    · rw [feed, splitOn_lineFeed]
      rfl
    · rw [splitOn_of_ne feed, List.getElem?_modifyHead, if_pos rfl, ih, List.takeWhile_cons_of_pos (by simpa using feed)]
      rfl

/-- The line that a cut lies on: what stands before the cut on it, and what follows up to the next line feed. -/
lemma getElem?_splitOn (pre post : List Char) :
    ((pre ++ post).splitOn '\n')[lineFeeds pre]? = some (lastLine pre ++ post.takeWhile (· != '\n')) := by
  induction pre with
  | nil => exact getElem?_zero_splitOn post
  | cons c pre ih =>
    rw [List.cons_append]
    by_cases feed : c = '\n'
    · rw [feed, splitOn_lineFeed, lastLine_lineFeed, lineFeeds, List.count_cons_self, ← lineFeeds,
        List.getElem?_cons_succ, ih]
    · rw [splitOn_of_ne feed, lineFeeds, List.count_cons_of_ne feed, ← lineFeeds, List.getElem?_modifyHead, ih]
      by_cases mem : '\n' ∈ pre
      · have later : lineFeeds pre ≠ 0 := fun none => lineFeeds_eq_zero.mp none mem
        rw [if_neg later, lastLine_cons_of_mem c mem]
      · have first : '\n' ∉ c :: pre := List.not_mem_cons_of_ne_of_not_mem (Ne.symm feed) mem
        rw [if_pos (lineFeeds_eq_zero.mpr mem), lastLine_of_notMem mem, lastLine_of_notMem first]
        rfl

/-- Each line of a text starts at a cut. -/
lemma exists_start_of_line (le : n ≤ lineFeeds cs) :
    ∃ front rest, cs = front ++ rest ∧ lineFeeds front = n ∧ lastLine front = [] := by
  induction n with
  | zero => exact ⟨[], cs, rfl, rfl, rfl⟩
  | succ n ih =>
    obtain ⟨front, rest, rfl, feeds, _⟩ := ih (Nat.le_of_succ_le le)
    -- A line feed follows, and the next line starts behind it.
    have mem : '\n' ∈ rest := by
      by_contra notMem
      rw [lineFeeds_append, lineFeeds_eq_zero.mpr notMem] at le
      omega
    obtain ⟨a, b, rfl, notMem⟩ := List.eq_append_cons_of_mem mem
    refine ⟨front ++ a ++ ['\n'], b, by simp, ?_, lastLine_append List.not_mem_nil⟩
    rw [lineFeeds_append, lineFeeds_append, lineFeeds_eq_zero.mpr notMem, feeds]
    rfl

/-- A column that a line has is reached behind a start of it, or it lies between the two units of a character. -/
lemma exists_cut_or_inside {line : List Char} {column : Nat} (le : column ≤ unitLength line) :
    (∃ pre post, line = pre ++ post ∧ unitLength pre = column) ∨
      ∃ pre c post, line = pre ++ c :: post ∧ units16 c = 2 ∧ column = unitLength pre + 1 := by
  induction line generalizing column with
  | nil => exact .inl ⟨[], [], rfl, (Nat.le_zero.mp le).symm⟩
  | cons c line ih =>
    rw [unitLength_cons] at le
    have units : units16 c = 1 ∨ units16 c = 2 := by
      unfold units16
      split
      · exact .inl rfl
      · exact .inr rfl
    by_cases start : column = 0
    · exact .inl ⟨[], c :: line, rfl, start.symm⟩
    · by_cases behind : units16 c ≤ column
      · have lower : column - units16 c ≤ unitLength line := by omega
        obtain ⟨pre, post, rfl, reached⟩ | ⟨pre, d, post, rfl, two, reached⟩ := ih lower
        · exact .inl ⟨c :: pre, post, rfl, by rw [unitLength_cons]; omega⟩
        · exact .inr ⟨c :: pre, d, post, rfl, two, by rw [unitLength_cons]; omega⟩
      · exact .inr ⟨[], c, line, rfl, by omega, by rw [unitLength_nil]; omega⟩

namespace Position

variable {p q : Position}

/-- A position comes before another one: its line does, or its column on the same line. -/
def ComesBefore (p q : Position) : Prop :=
  p.line < q.line ∨ p.line = q.line ∧ p.column < q.column

lemma comesBefore_iff_not_precedes : p.ComesBefore q ↔ ¬ q.Precedes p := by
  unfold ComesBefore Precedes
  omega

/-- Why a position does not exist in a text. -/
inductive Missing (cs : List Char) (p : Position) : Prop where
  /-- There is no such line. -/
  | line :
    (cs.splitOn '\n').length ≤ p.line →
    Missing cs p
  /-- The line ends in front of the column. -/
  | column {line} :
    (cs.splitOn '\n')[p.line]? = some line →
    unitLength line < p.column →
    Missing cs p
  /-- The column lies between the two units of a character. -/
  | inside {pre c post} :
    (cs.splitOn '\n')[p.line]? = some (pre ++ c :: post) →
    units16 c = 2 →
    p.column = unitLength pre + 1 →
    Missing cs p

/-- A position has the offset of the boundary at which it is reached. -/
lemma offset?_eq_some_iff_isBoundary : p.offset? cs = some n ↔ isBoundary n cs ∧ endOf (before n cs) = p := by
  rw [offset?_eq_some_iff, isBoundary_iff]
  constructor
  · rintro ⟨pre, post, rfl, reached, rfl⟩
    exact ⟨⟨pre, post, rfl, rfl⟩, by rw [before_byteLength, reached]⟩
  · rintro ⟨⟨pre, post, rfl, rfl⟩, reached⟩
    rw [before_byteLength] at reached
    exact ⟨pre, post, rfl, reached, rfl⟩

/-- What stands further on is reached at a position that does not come before. -/
lemma precedes_endOf_append (a b : List Char) : (endOf a).Precedes (endOf (a ++ b)) := by
  by_cases feed : '\n' ∈ b
  · have more : 0 < lineFeeds b := Nat.pos_of_ne_zero fun none => lineFeeds_eq_zero.mp none feed
    simp only [Precedes, endOf, lineFeeds_append]
    omega
  · simp only [Precedes, endOf, lineFeeds_append, lineFeeds_eq_zero.mpr feed, lastLine_append_of_notMem a feed,
      unitLength_append]
    omega

/-- Of two cuts of a text, the one that is reached earlier is the one with the smaller offset. -/
lemma comesBefore_endOf_iff (e : pre ++ post = pre' ++ post') :
    (endOf pre).ComesBefore (endOf pre') ↔ byteLength pre < byteLength pre' := by
  rw [comesBefore_iff_not_precedes]
  constructor
  · intro notBehind
    obtain ⟨mid, rfl, _⟩ | ⟨mid, rfl, _⟩ := List.append_eq_append_iff.mp e
    · cases mid with
      | nil => exact absurd (precedes_endOf_append (pre ++ []) []) (by simpa using notBehind)
      | cons c mid =>
        have := c.utf8Size_pos
        rw [byteLength_append, byteLength_cons]
        omega
    · exact absurd (precedes_endOf_append pre' mid) notBehind
  · intro lt precedes
    obtain ⟨mid, rfl, _⟩ := exists_eq_append_of_precedes e.symm precedes
    rw [byteLength_append] at lt
    omega

/-- Positions that exist come in the order of their offsets. -/
lemma comesBefore_iff_lt {m : Nat} (first : p.offset? cs = some n) (second : q.offset? cs = some m) :
    p.ComesBefore q ↔ n < m := by
  obtain ⟨pre, post, rfl, rfl, rfl⟩ := offset?_eq_some_iff.mp first
  obtain ⟨pre', post', e, rfl, rfl⟩ := offset?_eq_some_iff.mp second
  exact comesBefore_endOf_iff e

/-- A position that exists is on a line of the text, at a column that this line has. -/
lemma exists_line_of_offset? (found : p.offset? cs = some n) :
    ∃ start rest, (cs.splitOn '\n')[p.line]? = some (start ++ rest) ∧ unitLength start = p.column := by
  obtain ⟨pre, post, rfl, rfl, rfl⟩ := offset?_eq_some_iff.mp found
  exact ⟨_, _, getElem?_splitOn pre post, rfl⟩

/-- A line and a start of it are reached at a position that exists. -/
lemma exists_offset?_of_line {start rest : List Char} (line : (cs.splitOn '\n')[p.line]? = some (start ++ rest))
    (column : unitLength start = p.column) : ∃ n, p.offset? cs = some n := by
  obtain ⟨below, _⟩ := List.getElem?_eq_some_iff.mp line
  rw [length_splitOn] at below
  obtain ⟨front, behind, rfl, feeds, atStart⟩ := exists_start_of_line (Nat.le_of_lt_succ below)
  have here := getElem?_splitOn front behind
  rw [feeds, line, atStart, List.nil_append, Option.some_inj] at here
  have cut : behind = start ++ (rest ++ behind.dropWhile (· != '\n')) := by
    rw [← List.append_assoc, here, List.takeWhile_append_dropWhile]
  have unbroken : '\n' ∉ start := by
    intro mem
    have inLine : '\n' ∈ behind.takeWhile (· != '\n') := here ▸ List.mem_append_left rest mem
    simpa using List.mem_takeWhile_imp inLine
  refine ⟨_, offset?_eq_some_iff.mpr ⟨front ++ start, rest ++ behind.dropWhile (· != '\n'), ?_, ?_, rfl⟩⟩
  · rw [List.append_assoc, ← cut]
  · rw [endOf, lineFeeds_append, lastLine_append_of_notMem front unbroken, lineFeeds_eq_zero.mpr unbroken, atStart, feeds]
    obtain ⟨line, column'⟩ := p
    simpa using column

/-- A position that is missing for one of the reasons does not exist, and there is no other reason. -/
lemma offset?_eq_none_iff : p.offset? cs = none ↔ Missing cs p := by
  constructor
  · intro none
    have absent {start rest : List Char} (line : (cs.splitOn '\n')[p.line]? = some (start ++ rest)) :
        unitLength start ≠ p.column := by
      intro column
      obtain ⟨n, found⟩ := exists_offset?_of_line line column
      rw [none] at found
      simp at found
    cases line : (cs.splitOn '\n')[p.line]? with
    | none => exact .line (List.getElem?_eq_none_iff.mp line)
    | some found =>
      by_cases le : p.column ≤ unitLength found
      · obtain ⟨start, rest, rfl, column⟩ | ⟨start, c, rest, rfl, two, column⟩ := exists_cut_or_inside le
        · exact absurd column (absent line)
        · exact .inside line two column
      · exact .column line (Nat.lt_of_not_le le)
  · intro missing
    by_contra isSome
    obtain ⟨n, found⟩ := Option.ne_none_iff_exists'.mp isSome
    obtain ⟨start, rest, here, column⟩ := exists_line_of_offset? found
    cases missing with
    | line short =>
      rw [List.getElem?_eq_none_iff.mpr short] at here
      simp at here
    | column line short =>
      obtain rfl := Option.some.inj (line.symm.trans here)
      rw [unitLength_append] at short
      omega
    | @inside pre c post line two inside =>
      -- The start of the line would have to end inside the character.
      have e := Option.some.inj (line.symm.trans here)
      obtain ⟨mid, rfl, h⟩ | ⟨mid, rfl, _⟩ := List.append_eq_append_iff.mp e
      · rw [unitLength_append] at column
        cases mid with
        | nil =>
          rw [unitLength_nil] at column
          omega
        | cons d mid =>
          obtain ⟨rfl, _⟩ := List.cons.inj h
          rw [unitLength_cons] at column
          omega
      · rw [unitLength_append] at inside
        omega

end Position

end FigureGallery.Text
