import FigureGallery.Number.Width
import FigureGallery.Proofs.Text.Boundary
import FigureGallery.Proofs.Workspace.Editing

/-!
# Replaced stretches

A change replaces what stands between two positions of a text. A position that the text does not have makes the change
idle. Two positions that exist cut the text, and what stands between them is replaced, unless the second one comes before
the first: such a range is reversed, and it breaks the batch of its change off, with the changes before it in force.
-/

namespace FigureGallery

namespace Text.Position

/-- A position that a client can name: lines and columns are numbers of 32 bits. -/
def Fits (p : Position) : Prop :=
  p.line < Width.capacity 32 ∧ p.column < Width.capacity 32

/-- In a text with few and short lines a client can name each position. -/
lemma fits_of_offset? {cs : List Char} {p : Position} {n : Nat} (few : (cs.splitOn '\n').length < Width.capacity 32)
    (short : ∀ line ∈ cs.splitOn '\n', unitLength line < Width.capacity 32) (found : p.offset? cs = some n) :
    p.Fits := by
  obtain ⟨start, rest, line, column⟩ := exists_line_of_offset? found
  obtain ⟨below, here⟩ := List.getElem?_eq_some_iff.mp line
  have width := short (start ++ rest) (here ▸ List.getElem_mem below)
  rw [unitLength_append] at width
  exact ⟨Nat.lt_trans below few, by omega⟩

end Text.Position

namespace Change

open Text

variable {text left : String} {change : Change} {changes : List Change} {range : Text.Range} {e : ChangeError}

/-- Two positions that exist, in order, cut a text in three, and what stands between them is replaced. -/
lemma apply_of_precedes {n m : Nat} (start : range.start.offset? text.toList = some n)
    (stop : range.stop.offset? text.toList = some m) (inOrder : range.start.Precedes range.stop) (inserted : String) :
    ∃ pre mid post, text.toList = pre ++ mid ++ post ∧ n = byteLength pre ∧ m = byteLength (pre ++ mid) ∧
      apply text ⟨some range, inserted⟩ = .ok (String.ofList (pre ++ inserted.toList ++ post)) := by
  obtain ⟨pre, rest, cut, first, rfl⟩ := Position.offset?_eq_some_iff.mp start
  obtain ⟨front, post, cut', last, rfl⟩ := Position.offset?_eq_some_iff.mp stop
  have edits : Edits text ⟨some range, inserted⟩ (String.ofList (pre ++ inserted.toList ++ post)) :=
    .stretch cut first cut' last inOrder
  rw [← first, ← last] at inOrder
  obtain ⟨mid, rfl, rfl⟩ := Position.exists_eq_append_of_precedes (cut.symm.trans cut') inOrder
  exact ⟨pre, mid, post, cut', rfl, rfl, edits.apply⟩

/-- The positions of a text are its boundaries. A position has an offset exactly if there is a boundary at it with as many
line feeds before it as its line says and as many UTF-16 units behind the last of them as its column says; it has none
exactly if the text has no such line, the line ends in front of the column, or the column lies between the two units of a
character. Each boundary is reached at one position, which a client can name when the lines are few and short, and
boundaries come in the order of their positions. So what is replaced between two positions in order is a stretch of whole
characters, and replacing it does not fail. -/
theorem positions_are_boundaries (text : String) :
    (∀ (p : Position) (n : Nat), p.offset? text.toList = some n ↔
      isBoundary n text.toList ∧ lineFeeds (before n text.toList) = p.line ∧
        unitLength (lastLine (before n text.toList)) = p.column) ∧
    (∀ p : Position, p.offset? text.toList = none ↔ p.Missing text.toList) ∧
    (∀ n, isBoundary n text.toList → ∃! p : Position, p.offset? text.toList = some n) ∧
    ((text.toList.splitOn '\n').length < Width.capacity 32 →
      (∀ line ∈ text.toList.splitOn '\n', unitLength line < Width.capacity 32) →
      ∀ (p : Position) (n : Nat), p.offset? text.toList = some n → p.Fits) ∧
    (∀ (p q : Position) (n m : Nat), p.offset? text.toList = some n → q.offset? text.toList = some m →
      (p.ComesBefore q ↔ n < m)) ∧
    ∀ (range : Text.Range) (n m : Nat) (inserted : String), range.start.offset? text.toList = some n →
      range.stop.offset? text.toList = some m → range.start.Precedes range.stop →
      ∃ pre mid post, text.toList = pre ++ mid ++ post ∧ n = byteLength pre ∧ m = byteLength (pre ++ mid) ∧
        apply text ⟨some range, inserted⟩ = .ok (String.ofList (pre ++ inserted.toList ++ post)) := by
  refine ⟨fun p n => ?_, fun p => Position.offset?_eq_none_iff, fun n boundary => ?_,
    fun few short p n found => Position.fits_of_offset? few short found,
    fun p q n m first second => Position.comesBefore_iff_lt first second,
    fun range n m inserted start stop inOrder => apply_of_precedes start stop inOrder inserted⟩
  · rw [Position.offset?_eq_some_iff_isBoundary]
    obtain ⟨line, column⟩ := p
    rw [endOf, Position.mk.injEq]
  · refine ⟨endOf (before n text.toList), Position.offset?_eq_some_iff_isBoundary.mpr ⟨boundary, rfl⟩, fun p found => ?_⟩
    exact (Position.offset?_eq_some_iff_isBoundary.mp found).2.symm

/-- A character of two units, a line that ends with a carriage return, and a stretch over its end. -/
theorem positions_are_boundaries_pair :
    let text := "a😀\r\nb"
    let range : Text.Range := ⟨⟨0, 3⟩, ⟨1, 0⟩⟩
    isBoundary 5 text.toList ∧ (∃! p : Position, p.offset? text.toList = some 5) ∧
      (⟨0, 2⟩ : Position).Missing text.toList ∧
      (text.toList.splitOn '\n').length < Width.capacity 32 ∧
      (∀ line ∈ text.toList.splitOn '\n', unitLength line < Width.capacity 32) ∧
      range.start.offset? text.toList = some 5 ∧ range.start.Fits ∧ range.stop.offset? text.toList = some 7 ∧
      range.start.ComesBefore range.stop ∧ range.start.Precedes range.stop ∧
      ∃ pre mid post, text.toList = pre ++ mid ++ post ∧ 5 = byteLength pre ∧ 7 = byteLength (pre ++ mid) ∧
        apply text ⟨some range, "c"⟩ = .ok (String.ofList (pre ++ ['c'] ++ post)) := by
  intro text range
  obtain ⟨_, missing, unique, fits, order, replaces⟩ := positions_are_boundaries text
  have boundary : isBoundary 5 text.toList := by decide
  have few : (text.toList.splitOn '\n').length < Width.capacity 32 := by decide
  have short : ∀ line ∈ text.toList.splitOn '\n', unitLength line < Width.capacity 32 := by decide
  have start : range.start.offset? text.toList = some 5 := by decide
  have stop : range.stop.offset? text.toList = some 7 := by decide
  have inOrder : range.start.Precedes range.stop := .inl (by decide)
  exact ⟨boundary, unique 5 boundary, (missing ⟨0, 2⟩).mp (by decide), few, short, start, fits few short _ _ start, stop,
    (order _ _ _ _ start stop).mpr (by decide), inOrder, replaces range 5 7 "c" start stop inOrder⟩

/-- A range that ends before it starts, at positions that both exist. -/
structure Reverses (text : String) (range : Text.Range) : Prop where
  start : (range.start.offset? text.toList).isSome
  stop : (range.stop.offset? text.toList).isSome
  reversed : range.stop.ComesBefore range.start

/-- A batch of changes that breaks off at a reversed range, and the text that the changes before it leave. -/
inductive BreaksOff : String → List Change → String → Text.Range → Prop where
  | here {text range inserted changes} :
    Reverses text range →
    BreaksOff text (⟨some range, inserted⟩ :: changes) text range
  | later {text change middle changes left range} :
    apply text change = .ok middle →
    BreaksOff middle changes left range →
    BreaksOff text (change :: changes) left range

/-- A change fails exactly if its range is reversed. -/
lemma apply_eq_error_iff :
    apply text change = .error e ↔ ∃ range, change.range = some range ∧ Reverses text range ∧ e = .reversedRange range := by
  obtain ⟨range?, inserted⟩ := change
  rw [apply]
  cases range? with
  | none => simp
  | some range =>
    dsimp only
    split
    · rename_i n m start stop
      have order := Position.comesBefore_iff_lt stop start
      split
      · rename_i inOrder
        simp only [reduceCtorEq, Option.some.injEq, false_iff, not_exists, not_and]
        rintro _ rfl ⟨_, _, reversed⟩
        exact absurd (order.mp reversed) (Nat.not_lt.mpr inOrder)
      · rename_i reversed
        constructor
        · intro failed
          exact ⟨range, rfl, ⟨by rw [start]; rfl, by rw [stop]; rfl, order.mpr (Nat.lt_of_not_le reversed)⟩,
            (Except.error.inj failed).symm⟩
        · rintro ⟨_, same, _, rfl⟩
          rw [Option.some.inj same]
    · rename_i missing
      simp only [reduceCtorEq, Option.some.injEq, false_iff, not_exists, not_and]
      rintro _ rfl ⟨start, stop, _⟩
      obtain ⟨n, start⟩ := Option.isSome_iff_exists.mp start
      obtain ⟨m, stop⟩ := Option.isSome_iff_exists.mp stop
      exact absurd stop (missing n m start)

/-- A batch fails exactly if it breaks off, and leaves the text that the changes before the reversed range leave. -/
lemma applyAll_eq_some_iff :
    applyAll text changes = (left, some e) ↔ ∃ range, BreaksOff text changes left range ∧ e = .reversedRange range := by
  induction changes generalizing text with
  | nil =>
    rw [applyAll]
    constructor
    · simp
    · rintro ⟨range, ⟨⟩, _⟩
  | cons change changes ih =>
    rw [applyAll]
    split
    · rename_i middle applied
      rw [ih]
      constructor
      · rintro ⟨range, breaks, rfl⟩
        exact ⟨range, .later applied breaks, rfl⟩
      · rintro ⟨range, breaks, rfl⟩
        cases breaks with
        | here reverses =>
          rw [apply_eq_error_iff.mpr ⟨range, rfl, reverses, rfl⟩] at applied
          simp at applied
        | later applied' breaks =>
          obtain rfl := Except.ok.inj (applied.symm.trans applied')
          exact ⟨range, breaks, rfl⟩
    · rename_i e' failed
      constructor
      · intro same
        obtain ⟨rfl, rfl⟩ : text = left ∧ e' = e := by simpa using same
        obtain ⟨range, has, reverses, rfl⟩ := apply_eq_error_iff.mp failed
        obtain ⟨range?, inserted⟩ := change
        obtain rfl : range? = some range := has
        exact ⟨range, .here reverses, rfl⟩
      · rintro ⟨range, breaks, rfl⟩
        cases breaks with
        | here reverses =>
          obtain rfl := Except.error.inj (failed.symm.trans (apply_eq_error_iff.mpr ⟨range, rfl, reverses, rfl⟩))
          rfl
        | later applied breaks =>
          rw [failed] at applied
          simp at applied

end Change

end FigureGallery
