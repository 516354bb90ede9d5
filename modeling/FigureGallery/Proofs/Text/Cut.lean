import FigureGallery.Text.Offset
import Mathlib.Order.Bounds.Basic
import Mathlib.Tactic.Lemma

/-!
# Cuts of a text

A text that is written as one part after another is cut between the two by the byte length of the first. Everything
that is known about an offset is known through such a cut, so no proof counts bytes again.
-/

namespace FigureGallery.Text

@[simp]
lemma byteLength_nil : byteLength [] = 0 := rfl

@[simp]
lemma byteLength_cons (c : Char) (cs : List Char) : byteLength (c :: cs) = c.utf8Size + byteLength cs := rfl

/-- Nothing stands before the start of a text. -/
@[simp]
lemma before_zero (cs : List Char) : before 0 cs = [] := by
  cases cs with
  | nil => rfl
  | cons c cs =>
    have := c.utf8Size_pos
    rw [before, if_neg (by omega)]

/-- All of a text stands after its start. -/
@[simp]
lemma after_zero (cs : List Char) : after 0 cs = cs := by
  simpa using before_append_after 0 cs

/-- What stands before an offset behind the first part. -/
lemma before_append (pre post : List Char) (n : Nat) :
    before (byteLength pre + n) (pre ++ post) = pre ++ before n post := by
  induction pre with
  | nil => simp
  | cons c cs ih =>
    have e : byteLength (c :: cs) + n - c.utf8Size = byteLength cs + n := by
      rw [byteLength_cons]; omega
    rw [List.cons_append, before, if_pos (by rw [byteLength_cons]; omega), e, ih, List.cons_append]

/-- What stands after an offset behind the first part. -/
lemma after_append (pre post : List Char) (n : Nat) :
    after (byteLength pre + n) (pre ++ post) = after n post := by
  induction pre with
  | nil => simp
  | cons c cs ih =>
    have e : byteLength (c :: cs) + n - c.utf8Size = byteLength cs + n := by
      rw [byteLength_cons]; omega
    rw [List.cons_append, after, if_pos (by rw [byteLength_cons]; omega), e, ih]

/-- What stands before an offset is the longest start of the text that ends at or before it. -/
lemma isGreatest_before (offset : Nat) (text : List Char) :
    before offset text <+: text ∧
      IsGreatest {n | ∃ start, start <+: text ∧ n = byteLength start ∧ n ≤ offset} (byteLength (before offset text)) := by
  have start : before offset text <+: text := ⟨after offset text, before_append_after offset text⟩
  refine ⟨start, ⟨_, start, rfl, byteLength_before_le offset text⟩, ?_⟩
  rintro n ⟨pre, ⟨post, rfl⟩, rfl, le⟩
  obtain ⟨more, rfl⟩ := Nat.exists_eq_add_of_le le
  rw [before_append, byteLength_append]
  exact Nat.le_add_right _ _

/-- An offset up to the end of a text has the same text before it however the text goes on. -/
lemma before_append_of_le {offset : Nat} {text : List Char} (le : offset ≤ byteLength text) (later : List Char) :
    before offset (text ++ later) = before offset text := by
  induction text generalizing offset with
  | nil =>
    obtain rfl := Nat.le_zero.mp le
    rw [before_zero, before_zero]
  | cons c cs ih =>
    rw [byteLength_cons] at le
    rw [List.cons_append, before, before]
    split
    · rw [ih (by omega)]
    · rfl

/-- The first part is what stands before the cut. -/
@[simp]
lemma before_byteLength (pre post : List Char) : before (byteLength pre) (pre ++ post) = pre := by
  simpa using before_append pre post 0

/-- The second part is what stands after the cut. -/
@[simp]
lemma after_byteLength (pre post : List Char) : after (byteLength pre) (pre ++ post) = post := by
  simpa using after_append pre post 0

/-- A cut is a boundary. -/
@[simp]
lemma isBoundary_byteLength (pre post : List Char) : isBoundary (byteLength pre) (pre ++ post) = true := by
  simp [isBoundary]

/-- A text has one start of each byte length. -/
lemma eq_of_byteLength_eq {pre pre' post post' : List Char} (e : pre ++ post = pre' ++ post')
    (h : byteLength pre = byteLength pre') : pre = pre' ∧ post = post' := by
  have hb := congrArg (before (byteLength pre)) e
  have ha := congrArg (after (byteLength pre)) e
  rw [before_byteLength, h, before_byteLength] at hb
  rw [after_byteLength, h, after_byteLength] at ha
  exact ⟨hb, ha⟩

/-- Of two cuts of a text, the one with the larger offset stands behind the other, with a character between them. -/
lemma exists_eq_append_of_byteLength_lt {pre pre' post post' : List Char} (e : pre ++ post = pre' ++ post')
    (lt : byteLength pre < byteLength pre') : ∃ c mid, pre' = pre ++ c :: mid ∧ post = c :: (mid ++ post') := by
  obtain ⟨mid, rfl, rfl⟩ | ⟨mid, rfl, _⟩ := List.append_eq_append_iff.mp e
  · cases mid with
    | nil => simp at lt
    | cons c mid => exact ⟨c, mid, rfl, rfl⟩
  · rw [byteLength_append] at lt
    omega

/-- A text is written in one way around the last place of a character. -/
lemma eq_of_append_cons_eq {c : Char} {pre pre' post post' : List Char} (e : pre ++ c :: post = pre' ++ c :: post')
    (last : c ∉ post) (last' : c ∉ post') : pre = pre' ∧ post = post' := by
  obtain ⟨mid, rfl, h⟩ | ⟨mid, rfl, h⟩ := List.append_eq_append_iff.mp e
  · cases mid with
    | nil => exact ⟨(List.append_nil pre).symm, (List.cons.inj h).2⟩
    | cons d mid => exact absurd (by rw [(List.cons.inj h).2]; simp) last
  · cases mid with
    | nil => exact ⟨List.append_nil pre', (List.cons.inj h).2.symm⟩
    | cons d mid => exact absurd (by rw [(List.cons.inj h).2]; simp) last'

end FigureGallery.Text
