import FigureGallery.Markup.Delimiter
import FigureGallery.Proofs.Text.Cut
import Mathlib.Data.List.Count

/-!
# Balanced blocks

The body of a block is the text before the first closing delimiter that has no opening one of its own. In terms of
counts: as many delimiters close in the body as open, and up to no place of it more close than open. `Leaves` says the
same for any number of open blocks, which is what the search passes from one character to the next.
-/

namespace FigureGallery.Markup.Delimiters

/-- As many delimiters close in a text as open in it, and up to no place more close than open. -/
structure Balanced (d : Delimiters) (body : List Char) : Prop where
  level : body.count d.closing = body.count d.opening
  within : ∀ pre post, body = pre ++ post → pre.count d.closing ≤ pre.count d.opening

/-- A text that starts inside `depth` open blocks, ends inside one, and leaves the outermost nowhere. -/
structure Leaves (d : Delimiters) (depth : Nat) (inner : List Char) : Prop where
  level : inner.count d.closing + 1 = depth + inner.count d.opening
  within : ∀ pre post, inner = pre ++ post → pre.count d.closing < depth + pre.count d.opening

/-- The number of open blocks after one more character. -/
def depthAfter (d : Delimiters) (depth : Nat) (c : Char) : Nat :=
  if c = d.opening then depth + 1 else if c = d.closing then depth - 1 else depth

variable {d : Delimiters}

/-- Balanced is what leaves one block open that was open before. -/
lemma leaves_one_iff {body : List Char} : d.Leaves 1 body ↔ d.Balanced body := by
  constructor
  · intro h
    refine ⟨by have := h.level; omega, fun pre post e => ?_⟩
    have := h.within pre post e
    omega
  · intro h
    refine ⟨by have := h.level; omega, fun pre post e => ?_⟩
    have := h.within pre post e
    omega

/-- A text without delimiters is balanced. -/
lemma balanced_of_notMem {text : List Char} (opening : d.opening ∉ text) (closing : d.closing ∉ text) :
    d.Balanced text := by
  refine ⟨by rw [List.count_eq_zero_of_not_mem closing, List.count_eq_zero_of_not_mem opening], ?_⟩
  rintro pre post rfl
  rw [List.count_eq_zero_of_not_mem fun mem => closing (List.mem_append_left post mem)]
  exact Nat.zero_le _

/-- Balanced texts can be put together. -/
lemma Balanced.append {a b : List Char} (balanced : d.Balanced a) (balanced' : d.Balanced b) : d.Balanced (a ++ b) := by
  refine ⟨by rw [List.count_append, List.count_append, balanced.level, balanced'.level], fun pre post e => ?_⟩
  obtain ⟨mid, rfl, inside⟩ | ⟨mid, rfl, _⟩ := List.append_eq_append_iff.mp e
  · have within := balanced'.within mid post inside
    rw [List.count_append, List.count_append, balanced.level]
    omega
  · exact balanced.within pre mid rfl

/-- A balanced text in delimiters is balanced. -/
lemma Balanced.enclosed (distinct : d.opening ≠ d.closing) {inner : List Char} (balanced : d.Balanced inner) :
    d.Balanced (d.opening :: (inner ++ [d.closing])) := by
  have level : (inner ++ [d.closing]).count d.closing = (inner ++ [d.closing]).count d.opening + 1 := by
    rw [List.count_append, List.count_append, balanced.level, List.count_singleton_self,
      List.count_cons_of_ne distinct.symm, List.count_nil]
  refine ⟨by rw [List.count_cons_of_ne distinct, List.count_cons_self, level], ?_⟩
  rintro (_ | ⟨c, pre⟩) post e
  · exact Nat.le_refl _
  · obtain ⟨rfl, inside⟩ := List.cons.inj e
    rw [List.count_cons_of_ne distinct, List.count_cons_self]
    obtain rfl | ⟨behind, within⟩ := List.prefix_concat_iff.mp ⟨post, inside.symm⟩
    · exact Nat.le_of_eq level
    · exact Nat.le_succ_of_le (balanced.within pre behind within.symm)

/-- Only one open block is left by the empty text. -/
lemma leaves_nil_iff {depth : Nat} : d.Leaves depth [] ↔ depth = 1 := by
  constructor
  · intro h
    have := h.level
    simpa using this.symm
  · rintro rfl
    exact leaves_one_iff.mpr ⟨rfl, by simp⟩

/-- One more character in front changes the counts of delimiters by as much as the number of open blocks. -/
lemma count_cons_depthAfter (distinct : d.opening ≠ d.closing) {depth : Nat} (pos : 0 < depth) (c : Char)
    (cs : List Char) :
    (c :: cs).count d.closing + d.depthAfter depth c + cs.count d.opening =
      cs.count d.closing + depth + (c :: cs).count d.opening := by
  unfold depthAfter
  split
  · rename_i h
    rw [h, List.count_cons_self, List.count_cons_of_ne distinct]
    omega
  · rename_i ho
    rw [List.count_cons_of_ne ho]
    split
    · rename_i hc
      rw [hc, List.count_cons_self]
      omega
    · rename_i hc
      rw [List.count_cons_of_ne hc]

/-- A character of a text changes the number of open blocks that the rest starts in. -/
lemma leaves_cons_iff (distinct : d.opening ≠ d.closing) {depth : Nat} (pos : 0 < depth) {c : Char}
    {inner : List Char} : d.Leaves depth (c :: inner) ↔ d.Leaves (d.depthAfter depth c) inner := by
  have step := count_cons_depthAfter distinct pos c
  constructor
  · intro h
    refine ⟨?_, fun pre post e => ?_⟩
    · have := h.level
      have := step inner
      omega
    · have := h.within (c :: pre) post (by rw [e, List.cons_append])
      have := step pre
      omega
  · intro h
    refine ⟨?_, fun pre post e => ?_⟩
    · have := h.level
      have := step inner
      omega
    · -- No start of the rest stands for the empty start, before which the outermost block is open anyway.
      cases pre with
      | nil => simpa using pos
      | cons c' pre =>
        obtain ⟨rfl, rfl⟩ := List.cons.inj e
        have := h.within pre post rfl
        have := step pre
        omega

/-- A body that ends in front of a closing delimiter: either the first character is that delimiter, or it belongs to the
body. -/
lemma exists_leaves_cons_iff (distinct : d.opening ≠ d.closing) {depth : Nat} (pos : 0 < depth) {c : Char}
    {read cs body : List Char} :
    (∃ inner rest, c :: cs = inner ++ d.closing :: rest ∧ d.Leaves depth inner ∧ body = read.reverse ++ inner) ↔
      (c = d.closing ∧ depth = 1 ∧ body = read.reverse) ∨
        ∃ inner rest, cs = inner ++ d.closing :: rest ∧ d.Leaves (d.depthAfter depth c) inner ∧
          body = (c :: read).reverse ++ inner := by
  constructor
  · rintro ⟨inner, rest, e, leaves, rfl⟩
    cases inner with
    | nil => exact .inl ⟨(List.cons.inj e).1, leaves_nil_iff.mp leaves, List.append_nil _⟩
    | cons c' inner =>
      obtain ⟨rfl, rfl⟩ := List.cons.inj e
      exact .inr ⟨inner, rest, rfl, (leaves_cons_iff distinct pos).mp leaves, by simp⟩
  · rintro (⟨rfl, rfl, rfl⟩ | ⟨inner, rest, rfl, leaves, rfl⟩)
    · exact ⟨[], cs, rfl, leaves_nil_iff.mpr rfl, by simp⟩
    · exact ⟨c :: inner, rest, rfl, (leaves_cons_iff distinct pos).mpr leaves, by simp⟩

/-- Behind the closing delimiter of the last open block there is none to leave. -/
lemma not_leaves_zero {inner : List Char} : ¬ d.Leaves 0 inner := by
  intro leaves
  have := leaves.within [] inner rfl
  simp at this

/-- The search reads up to the closing delimiter that leaves the outermost open block. -/
lemma bodyOf?_eq_some_iff (distinct : d.opening ≠ d.closing) {depth : Nat} (pos : 0 < depth)
    {read cs body : List Char} :
    d.bodyOf? depth read cs = some body ↔
      ∃ inner rest, cs = inner ++ d.closing :: rest ∧ d.Leaves depth inner ∧ body = read.reverse ++ inner := by
  induction cs generalizing depth read with
  | nil => simp [bodyOf?]
  | cons c cs ih =>
    rw [exists_leaves_cons_iff distinct pos, bodyOf?]
    by_cases ho : c = d.opening
    · have next : d.depthAfter depth c = depth + 1 := if_pos ho
      have goes : ¬ (c = d.closing ∧ depth = 1 ∧ body = read.reverse) := fun h => distinct (ho.symm.trans h.1)
      rw [if_pos ho, ih (Nat.succ_pos depth), next]
      exact (or_iff_right goes).symm
    · by_cases hc : c = d.closing
      · have next : d.depthAfter depth c = depth - 1 := (if_neg ho).trans (if_pos hc)
        rw [if_neg ho, if_pos hc, next]
        by_cases one : depth = 1
        · subst one
          have ends : ¬ ∃ inner rest, cs = inner ++ d.closing :: rest ∧ d.Leaves (1 - 1) inner ∧
              body = (c :: read).reverse ++ inner := by
            rintro ⟨inner, rest, _, leaves, _⟩
            exact not_leaves_zero leaves
          rw [if_pos (Nat.le_refl 1), or_iff_left ends, Option.some_inj]
          simp [hc, eq_comm]
        · have goes : ¬ (c = d.closing ∧ depth = 1 ∧ body = read.reverse) := fun h => one h.2.1
          rw [if_neg (by omega), ih (by omega)]
          exact (or_iff_right goes).symm
      · have next : d.depthAfter depth c = depth := (if_neg ho).trans (if_neg hc)
        have goes : ¬ (c = d.closing ∧ depth = 1 ∧ body = read.reverse) := fun h => hc h.1
        rw [if_neg ho, if_neg hc, ih pos, next]
        exact (or_iff_right goes).symm

section Block

open Text

variable {pre post : List Char}

/-- The body of a block that starts at a cut. -/
lemma bodyOf?_textFrom_eq_some_iff (distinct : d.opening ≠ d.closing) (pre : List Char) {body : List Char} :
    d.bodyOf? 1 [] (textFrom (byteLength pre) (pre ++ post)) = some body ↔
      ∃ rest, post = body ++ d.closing :: rest ∧ d.Balanced body := by
  rw [textFrom, if_pos (isBoundary_byteLength pre post), after_byteLength,
    bodyOf?_eq_some_iff distinct Nat.one_pos]
  constructor
  · rintro ⟨inner, rest, e, leaves, rfl⟩
    exact ⟨rest, e, leaves_one_iff.mp leaves⟩
  · rintro ⟨rest, e, balanced⟩
    exact ⟨body, rest, e, leaves_one_iff.mpr balanced, rfl⟩

/-- A block that starts at a cut has a balanced body, behind which its closing delimiter stands. -/
lemma block_eq_ok_iff (distinct : d.opening ≠ d.closing) {block : Block} :
    d.block (pre ++ post) (byteLength pre) = .ok block ↔
      ∃ body rest, post = body ++ d.closing :: rest ∧ d.Balanced body ∧
        block = ⟨byteLength pre, byteLength pre + byteLength body, body⟩ := by
  rw [Delimiters.block]
  constructor
  · intro h
    split at h
    · simp at h
    · rename_i body hb
      obtain ⟨rest, e, balanced⟩ := (bodyOf?_textFrom_eq_some_iff distinct pre).mp hb
      rw [if_pos (isBoundary_byteLength pre post)] at h
      exact ⟨body, rest, e, balanced, (Except.ok.inj h).symm⟩
  · rintro ⟨body, rest, e, balanced, rfl⟩
    have found := (bodyOf?_textFrom_eq_some_iff distinct pre).mpr ⟨rest, e, balanced⟩
    simp only [found, isBoundary_byteLength, if_true]

/-- No block starts at a cut when no balanced text with a closing delimiter behind it does. -/
lemma block_eq_error_iff (distinct : d.opening ≠ d.closing) {e : BlockError} :
    d.block (pre ++ post) (byteLength pre) = .error e ↔
      (∀ body rest, post = body ++ d.closing :: rest → ¬ d.Balanced body) ∧ e = .unbalanced (byteLength pre) := by
  rw [Delimiters.block]
  constructor
  · intro h
    split at h
    · rename_i none
      refine ⟨fun body rest e balanced => ?_, (Except.error.inj h).symm⟩
      have found := (bodyOf?_textFrom_eq_some_iff distinct pre).mpr ⟨rest, e, balanced⟩
      rw [none] at found
      simp at found
    · rw [if_pos (isBoundary_byteLength pre post)] at h
      simp at h
  · rintro ⟨none, rfl⟩
    split
    · rfl
    · rename_i body hb
      obtain ⟨rest, e, balanced⟩ := (bodyOf?_textFrom_eq_some_iff distinct pre).mp hb
      exact absurd balanced (none body rest e)

end Block

end FigureGallery.Markup.Delimiters
