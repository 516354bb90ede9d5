import FigureGallery.Markup.Comment
import FigureGallery.Proofs.Markup.Absence
import FigureGallery.Proofs.Text.Position

/-!
# Comments read from left to right

The search for an open block comment jumps from an opening marker to the closing marker behind it, and starts again
there. It comes out where a reader comes out that passes over the text once and only remembers whether a comment is open.
So whether a place is commented out rests on what stands before it: on the last line for a line comment, and on all of it
for a block comment.
-/

namespace FigureGallery.Markup

/-- A marker stands in a text if the text can be cut around it. -/
lemma holds_iff {marker text : List Char} : holds marker text ↔ marker <:+: text := by
  rw [holds]
  induction text with
  | nil =>
    rw [afterFirst?, List.infix_nil]
    split <;> simp_all
  | cons c cs ih =>
    rw [afterFirst?, List.infix_cons_iff]
    split
    · rename_i rest found
      exact iff_of_true rfl (.inl ⟨rest, (eq_append_of_isPrefixOf? found).symm⟩)
    · rename_i none
      have here : ¬ marker <+: c :: cs := by
        rintro ⟨rest, e⟩
        rw [← e, isPrefixOf?_append] at none
        exact Option.some_ne_none _ none
      rw [ih]
      exact (or_iff_right here).symm

namespace Comment

open Text

/-- What a reader of block comments remembers. -/
inductive Reader where
  | outside
  | inside
deriving DecidableEq

namespace Reader

/-- Where a text leads a reader. Outside of comments an opening marker is read as a whole, inside of one a closing marker
is; any other character makes no difference. -/
def read : Reader → List Char → Reader
  | outside, '/' :: '*' :: cs => inside.read cs
  | inside, '*' :: '/' :: cs => outside.read cs
  | reader, _ :: cs => reader.read cs
  | reader, [] => reader

/-- The marker that a reader waits for. -/
def marker : Reader → List Char
  | outside => ['/', '*']
  | inside => ['*', '/']

/-- The reader behind the marker that was waited for. -/
def other : Reader → Reader
  | outside => inside
  | inside => outside

/-- A reader goes on behind the first marker that it waits for, and without one it stays what it is. -/
lemma read_eq (reader : Reader) (cs : List Char) :
    reader.read cs = (afterFirst? reader.marker cs).elim reader reader.other.read := by
  fun_induction Reader.read reader cs with
  | case1 => rfl
  | case2 => rfl
  | case3 reader c cs notOpening notClosing ih =>
    have here : reader.marker.isPrefixOf? (c :: cs) = none := by
      by_contra isSome
      obtain ⟨rest, found⟩ := Option.ne_none_iff_exists'.mp isSome
      cases reader with
      | outside =>
        obtain ⟨rfl, rfl⟩ := List.cons.inj (eq_append_of_isPrefixOf? found)
        exact notOpening rest rfl rfl rfl
      | inside =>
        obtain ⟨rfl, rfl⟩ := List.cons.inj (eq_append_of_isPrefixOf? found)
        exact notClosing rest rfl rfl rfl
    rw [ih, afterFirst?, here]
  | case4 reader => cases reader <;> rfl

end Reader

/-- The rounds of the search for an open block comment. Each full round leads from an opening marker behind the closing
marker that follows it. -/
inductive Searches : Nat → List Char → Bool → Prop where
  | unopened {cs} :
    afterFirst? Reader.outside.marker cs = none →
    Searches 0 cs false
  | unclosed {cs opened} :
    afterFirst? Reader.outside.marker cs = some opened →
    afterFirst? Reader.inside.marker opened = none →
    Searches 0 cs true
  | round {n cs opened closed found} :
    afterFirst? Reader.outside.marker cs = some opened →
    afterFirst? Reader.inside.marker opened = some closed →
    Searches n closed found →
    Searches (n + 1) cs found

/-- The search comes to an end: a full round takes two markers off the text. -/
lemma exists_searches (cs : List Char) : ∃ rounds, 4 * rounds ≤ cs.length ∧ Searches rounds cs (leavesBlockOpen cs) := by
  fun_induction leavesBlockOpen cs with
  | case1 cs none => exact ⟨0, Nat.zero_le _, .unopened none⟩
  | case2 cs opened opens none => exact ⟨0, Nat.zero_le _, .unclosed opens none⟩
  | case3 cs opened opens closed closes ih =>
    obtain ⟨rounds, le, searches⟩ := ih
    have shorter := length_afterFirst?_le opens
    have shorter' := length_afterFirst?_le closes
    simp only [List.length_cons, List.length_nil] at shorter shorter'
    exact ⟨rounds + 1, by omega, .round opens closes searches⟩

/-- The search takes one course. -/
lemma Searches.unique {n m : Nat} {cs : List Char} {found found' : Bool} (searches : Searches n cs found)
    (searches' : Searches m cs found') : n = m ∧ found = found' := by
  induction searches generalizing m with
  | unopened none =>
    cases searches' with
    | unopened _ => exact ⟨rfl, rfl⟩
    | unclosed opens _ | round opens _ _ => simp [none] at opens
  | unclosed opens none =>
    cases searches' with
    | unopened none' => simp [opens] at none'
    | unclosed _ _ => exact ⟨rfl, rfl⟩
    | round opens' closes _ =>
      obtain rfl := Option.some.inj (opens.symm.trans opens')
      simp [none] at closes
  | round opens closes _ ih =>
    cases searches' with
    | unopened none => simp [opens] at none
    | unclosed opens' none =>
      obtain rfl := Option.some.inj (opens.symm.trans opens')
      simp [none] at closes
    | round opens' closes' rest =>
      obtain rfl := Option.some.inj (opens.symm.trans opens')
      obtain rfl := Option.some.inj (closes.symm.trans closes')
      obtain ⟨rfl, rfl⟩ := ih rest
      exact ⟨rfl, rfl⟩

/-- The search comes out where a reader does. -/
lemma Searches.read_eq {n : Nat} {cs : List Char} {found : Bool} (searches : Searches n cs found) :
    Reader.outside.read cs = if found then .inside else .outside := by
  induction searches with
  | unopened none => rw [Reader.read_eq, none]; rfl
  | unclosed opens none => rw [Reader.read_eq, opens, Option.elim_some, Reader.other, Reader.read_eq, none]; rfl
  | round opens closes _ ih =>
    rw [Reader.read_eq, opens, Option.elim_some, Reader.other, Reader.read_eq, closes, Option.elim_some, Reader.other, ih]

lemma leavesBlockOpen_iff {cs : List Char} : leavesBlockOpen cs ↔ Reader.outside.read cs = .inside := by
  obtain ⟨_, _, searches⟩ := exists_searches cs
  rw [searches.read_eq]
  cases leavesBlockOpen cs <;> simp

/-- A text ends in a line comment: two slashes stand behind its last line feed. -/
def EndsInLine (cs : List Char) : Prop :=
  ∃ front behind, cs = front ++ '/' :: '/' :: behind ∧ '\n' ∉ behind

/-- The comment that a text ends in, by what a reader makes of it. -/
inductive Ends (cs : List Char) : Option Comment → Prop where
  | line :
    EndsInLine cs →
    Ends cs (some .line)
  | block :
    ¬ EndsInLine cs →
    Reader.outside.read cs = .inside →
    Ends cs (some .block)
  | live :
    ¬ EndsInLine cs →
    Reader.outside.read cs = .outside →
    Ends cs none

lemma holds_lastLine_iff {cs : List Char} : holds ['/', '/'] (lastLine cs) ↔ EndsInLine cs := by
  rw [holds_iff]
  constructor
  · rintro ⟨a, b, e⟩
    obtain ⟨front, cut⟩ := exists_eq_append_lastLine cs
    have unbroken := notMem_lastLine cs
    replace e : a ++ ['/', '/'] ++ b = Text.lastLine cs := e
    rw [← e] at cut unbroken
    exact ⟨front ++ a, b, by rw [cut]; simp, fun mem => unbroken (by simp [mem])⟩
  · rintro ⟨front, behind, rfl, unbroken⟩
    have whole : lastLine (front ++ '/' :: '/' :: behind) = Text.lastLine front ++ '/' :: '/' :: behind :=
      lastLine_append_of_notMem front (by simpa using unbroken)
    exact ⟨Text.lastLine front, behind, by simp [whole]⟩

/-- The comment at the end of a text is the one that the rules give. -/
lemma ends_iff {cs : List Char} {found : Option Comment} : Ends cs found ↔ atEnd? cs = found := by
  rw [atEnd?]
  constructor
  · intro ends
    cases ends with
    | line line => rw [if_pos (holds_lastLine_iff.mpr line)]
    | block notLine inside => rw [if_neg (mt holds_lastLine_iff.mp notLine), if_pos (leavesBlockOpen_iff.mpr inside)]
    | live notLine outside =>
      have notInside : ¬ leavesBlockOpen cs := by simp [leavesBlockOpen_iff, outside]
      rw [if_neg (mt holds_lastLine_iff.mp notLine), if_neg notInside]
  · rintro rfl
    split
    · rename_i line
      exact .line (holds_lastLine_iff.mp line)
    · rename_i notLine
      replace notLine := mt holds_lastLine_iff.mpr notLine
      split
      · rename_i inside
        exact .block notLine (leavesBlockOpen_iff.mp inside)
      · rename_i notInside
        refine .live notLine ?_
        cases h : Reader.outside.read cs with
        | outside => rfl
        | inside => exact absurd (leavesBlockOpen_iff.mpr h) notInside

/-- A text behind which a line starts, and in which no block comment does. -/
structure Uncommented (text : List Char) : Prop where
  ends : text = [] ∨ ['\n'] <:+ text
  lacks : Lacks (· = Reader.outside.marker) text

namespace Uncommented

variable {front : List Char}

lemma lastLine_append (uncommented : Uncommented front) (rest : List Char) : lastLine (front ++ rest) = lastLine rest := by
  obtain rfl | ⟨lines, rfl⟩ := uncommented.ends
  · rfl
  · rw [List.append_assoc]
    exact lastLine_append_lineFeed lines rest

lemma leavesBlockOpen_append (uncommented : Uncommented front) (rest : List Char) :
    leavesBlockOpen (front ++ rest) = leavesBlockOpen rest := by
  have read : Reader.outside.read (front ++ rest) = Reader.outside.read rest := by
    rw [Reader.read_eq, uncommented.lacks.afterFirst?_append, ← Reader.read_eq]
  rw [Bool.eq_iff_iff, leavesBlockOpen_iff, leavesBlockOpen_iff, read]

/-- What stands behind such a text is commented out if it is without it. -/
lemma at?_append (uncommented : Uncommented front) (rest : List Char) (offset : Nat) :
    at? (front ++ rest) (byteLength front + offset) = at? rest offset := by
  rw [at?, at?, before_append, atEnd?, atEnd?, uncommented.lastLine_append, uncommented.leavesBlockOpen_append]

end Uncommented

/-- Whether a place of a text is commented out is decided by the longest start of the text that ends at or before it: by
two slashes on the last line of this start, or by where a reader of block comments comes out behind it. The search ends
after as many rounds as there are closed block comments, and comes out where the reader does. Whatever stands behind the
place makes no difference. -/
theorem at?_eq_iff_ends (text : List Char) (offset : Nat) :
    let start := before offset text
    (start <+: text ∧ IsGreatest {n | ∃ pre, pre <+: text ∧ n = byteLength pre ∧ n ≤ offset} (byteLength start)) ∧
    (∀ found, at? text offset = found ↔ Ends start found) ∧
    (∃ rounds, 4 * rounds ≤ start.length ∧
      ∀ n found, Searches n start found ↔ n = rounds ∧ (found ↔ Reader.outside.read start = .inside)) ∧
    (∀ other, start <+: other → at? other (byteLength start) = at? text offset) ∧
    ∀ later, offset ≤ byteLength text → at? (text ++ later) offset = at? text offset := by
  intro start
  refine ⟨isGreatest_before offset text, fun found => ends_iff.symm, ?_, ?_, fun later le => ?_⟩
  · obtain ⟨rounds, le, searches⟩ := exists_searches start
    refine ⟨rounds, le, fun n found => ?_⟩
    rw [← leavesBlockOpen_iff, Bool.coe_iff_coe]
    constructor
    · exact fun searches' => searches'.unique searches
    · rintro ⟨rfl, rfl⟩
      exact searches
  · rintro _ ⟨rest, rfl⟩
    rw [at?, before_byteLength, at?]
  · rw [at?, before_append_of_le le, at?]

/-- An offset inside a character, in a comment whose closing marker would have to share its first asterisk with the
opening one. -/
theorem at?_eq_iff_ends_shared :
    let text := "a\n/*/é".toList
    6 ≤ byteLength text ∧ before 6 text = "a\n/*/".toList ∧ Ends "a\n/*/".toList (some .block) ∧
      at? (text ++ "*/".toList) 6 = some .block ∧ at? "a\n/*/ */".toList 5 = some .block := by
  intro text
  have le : 6 ≤ byteLength text := by decide
  have start : before 6 text = "a\n/*/".toList := by decide
  obtain ⟨_, decided, _, upTo, beyond⟩ := at?_eq_iff_ends text 6
  have ends : Ends "a\n/*/".toList (some .block) := by
    refine .block ?_ rfl
    rw [← holds_lastLine_iff]
    decide
  have here : at? text 6 = some .block := (decided _).mpr (by rw [start]; exact ends)
  have later := upTo "a\n/*/ */".toList ⟨" */".toList, by rw [start]; rfl⟩
  rw [start] at later
  exact ⟨le, start, ends, (beyond _ le).trans here, later.trans here⟩

end Comment

end FigureGallery.Markup
