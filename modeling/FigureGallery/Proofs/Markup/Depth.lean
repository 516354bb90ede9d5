import FigureGallery.Proofs.Markup.Delimiter
import FigureGallery.Proofs.Text.Bytes
import FigureGallery.Proofs.Text.Boundary
import Mathlib.Order.Bounds.Basic

/-!
# Depth of nested delimiters

The depth behind an index of the bytes of a text is one more than the opening delimiters from the start of a block to the
index, less the closing ones. A block is closed at the first index at which its depth is zero, and not closed when there is
none. Up to there the number of open blocks that the search keeps is this depth, and it is never zero.
-/

namespace FigureGallery.Markup.Delimiters

open Text

/-- The depth of a block that starts at `start`, behind the byte at an index. -/
def depthAt (d : Delimiters) (text : List Char) (start index : Nat) : Int :=
  let read := (bytes text).extract start (index + 1)
  1 + read.count d.opening.toUInt8 - read.count d.closing.toUInt8

/-- The indices at which the depth of a block is zero. -/
def closings (d : Delimiters) (text : List Char) (start : Nat) : Set Nat :=
  {index | start ≤ index ∧ index < byteLength text ∧ d.depthAt text start index = 0}

/-- The states of a search: the number of open blocks, what was read, the last character first, and what is left. -/
inductive Reaches (d : Delimiters) (text : List Char) : Nat → List Char → List Char → Prop where
  | start :
    Reaches d text 1 [] text
  | read {depth read c rest} :
    Reaches d text depth read (c :: rest) →
    ¬ (c = d.closing ∧ depth = 1) →
    Reaches d text (d.depthAfter depth c) (c :: read) rest

variable {d : Delimiters}

/-- One character of a search: unless it closes the last open block, the search goes on in the next state. -/
lemma bodyOf?_cons {depth : Nat} (pos : 0 < depth) (read rest : List Char) {c : Char}
    (goes : ¬ (c = d.closing ∧ depth = 1)) :
    0 < d.depthAfter depth c ∧ d.bodyOf? depth read (c :: rest) = d.bodyOf? (d.depthAfter depth c) (c :: read) rest := by
  rw [bodyOf?, depthAfter]
  by_cases opens : c = d.opening
  · rw [if_pos opens, if_pos opens]
    exact ⟨Nat.succ_pos depth, rfl⟩
  · rw [if_neg opens, if_neg opens]
    by_cases closes : c = d.closing
    · have more : depth ≠ 1 := fun one => goes ⟨closes, one⟩
      rw [if_pos closes, if_pos closes, if_neg (by omega)]
      exact ⟨by omega, rfl⟩
    · rw [if_neg closes, if_neg closes]
      exact ⟨pos, rfl⟩

/-- In each state of a search a block is open, as many are open as were opened and not closed, and the search comes out as
from its start. -/
lemma Reaches.invariant (distinct : d.opening ≠ d.closing) {text read rest : List Char} {depth : Nat}
    (reaches : d.Reaches text depth read rest) :
    0 < depth ∧ text = read.reverse ++ rest ∧ depth + read.count d.closing = 1 + read.count d.opening ∧
      d.bodyOf? 1 [] text = d.bodyOf? depth read rest := by
  induction reaches with
  | start => exact ⟨Nat.one_pos, rfl, rfl, rfl⟩
  | @read depth read c rest _ goes ih =>
    obtain ⟨pos, rfl, level, same⟩ := ih
    obtain ⟨pos', next⟩ := bodyOf?_cons pos read rest goes
    have step := count_cons_depthAfter distinct pos c read
    exact ⟨pos', by simp, by omega, same.trans next⟩

/-- A text that closes as many blocks as are open closes the last of them somewhere. -/
lemma exists_leaves_of_count_le (distinct : d.opening ≠ d.closing) {depth : Nat} (pos : 0 < depth) {cs : List Char}
    (closed : depth + cs.count d.opening ≤ cs.count d.closing) :
    ∃ inner rest, cs = inner ++ d.closing :: rest ∧ d.Leaves depth inner := by
  induction cs generalizing depth with
  | nil =>
    rw [List.count_nil, List.count_nil] at closed
    omega
  | cons c cs ih =>
    by_cases ends : c = d.closing ∧ depth = 1
    · obtain ⟨rfl, rfl⟩ := ends
      exact ⟨[], cs, rfl, leaves_nil_iff.mpr rfl⟩
    · have step := count_cons_depthAfter distinct pos c cs
      obtain ⟨pos', _⟩ := bodyOf?_cons pos [] cs ends
      obtain ⟨inner, rest, rfl, leaves⟩ := ih pos' (by omega)
      exact ⟨c :: inner, rest, rfl, (leaves_cons_iff distinct pos).mpr leaves⟩

section Cut

variable {pre post : List Char}

/-- The depth of a block that starts at a cut, by the characters before the index. -/
lemma depthAt_byteLength (opening : d.opening.toNat < 128) (closing : d.closing.toNat < 128) (n : Nat) :
    d.depthAt (pre ++ post) (byteLength pre) (byteLength pre + n) =
      1 + (before (n + 1) post).count d.opening - (before (n + 1) post).count d.closing := by
  have read : (bytes (pre ++ post)).extract (byteLength pre) (byteLength pre + n + 1) = (bytes post).take (n + 1) := by
    rw [List.extract_eq_take_drop, drop_bytes, Nat.add_assoc, Nat.add_sub_cancel_left]
  rw [depthAt, read, count_take_bytes opening, count_take_bytes closing]

/-- A balanced body ends at the first index at which the depth is zero. -/
lemma Balanced.isLeast (opening : d.opening.toNat < 128) (closing : d.closing.toNat < 128)
    (distinct : d.opening ≠ d.closing) {body rest : List Char} (balanced : d.Balanced body) :
    IsLeast (d.closings (pre ++ (body ++ d.closing :: rest)) (byteLength pre)) (byteLength pre + byteLength body) := by
  have size := utf8Size_of_ascii closing
  constructor
  · refine ⟨Nat.le_add_right _ _, ?_, ?_⟩
    · simp only [byteLength_append, byteLength_cons]
      omega
    · have read : before (byteLength body + 1) (body ++ d.closing :: rest) = body ++ [d.closing] := by
        rw [before_append, before, size, if_pos (Nat.le_refl 1), Nat.sub_self, before_zero]
      have level := balanced.level
      rw [depthAt_byteLength opening closing, read, List.count_append, List.count_append, List.count_singleton_self,
        List.count_cons_of_ne distinct.symm, List.count_nil]
      omega
  · rintro index ⟨le, _, zero⟩
    obtain ⟨n, rfl⟩ := Nat.exists_eq_add_of_le le
    by_contra lt
    -- What is read up to the index is a start of the body, where no more is closed than opened.
    have inside : n + 1 ≤ byteLength body := by omega
    have within := balanced.within _ _ (before_append_after (n + 1) body).symm
    rw [depthAt_byteLength opening closing, before_append_of_le inside] at zero
    omega

/-- Where the depth is zero, a balanced body was closed before. -/
lemma exists_balanced_of_mem_closings (opening : d.opening.toNat < 128) (closing : d.closing.toNat < 128)
    (distinct : d.opening ≠ d.closing) {index : Nat} (mem : index ∈ d.closings (pre ++ post) (byteLength pre)) :
    ∃ body rest, post = body ++ d.closing :: rest ∧ d.Balanced body := by
  obtain ⟨le, _, zero⟩ := mem
  obtain ⟨n, rfl⟩ := Nat.exists_eq_add_of_le le
  rw [depthAt_byteLength opening closing] at zero
  obtain ⟨body, rest, e, leaves⟩ := exists_leaves_of_count_le distinct Nat.one_pos
    (show 1 + (before (n + 1) post).count d.opening ≤ (before (n + 1) post).count d.closing by omega)
  refine ⟨body, rest ++ after (n + 1) post, ?_, leaves_one_iff.mp leaves⟩
  calc post = before (n + 1) post ++ after (n + 1) post := (before_append_after (n + 1) post).symm
    _ = body ++ d.closing :: (rest ++ after (n + 1) post) := by rw [e]; simp

end Cut

/-- No block starts past the end of a text. -/
lemma block_of_lt {text : List Char} {start : Nat} (past : byteLength text < start) :
    d.block text start = .error (.unbalanced start) := by
  obtain ⟨n, rfl⟩ := Nat.exists_eq_add_of_le (Nat.le_of_lt past)
  have whole := before_append text [] n
  have none := after_append text [] n
  rw [List.append_nil] at whole none
  have inside : ¬ isBoundary (byteLength text + n) text := by
    rw [isBoundary, whole, before, List.append_nil, beq_iff_eq]
    omega
  rw [block, textFrom, if_neg inside, none, after, List.drop_nil, bodyOf?]

lemma closings_of_lt {text : List Char} {start : Nat} (past : byteLength text < start) : d.closings text start = ∅ :=
  Set.eq_empty_of_forall_notMem fun index mem => absurd mem.2.1 (by have := mem.1; omega)

/-- The closing delimiter of a block is found at the first index at which the depth is zero. From a boundary of a text, or
from past its end, the search finds this index when there is one and says that the block is not closed when there is none;
it does nothing else. The body is the text up to this index, which is a boundary, and balanced. All the way the search
keeps a number of open blocks that is not zero, so closing one never takes it below. -/
theorem block_closes_at_first_zero {text : List Char} {start : Nat} (distinct : d.opening ≠ d.closing)
    (opening : d.opening.toNat < 128) (closing : d.closing.toNat < 128)
    (boundary : isBoundary start text ∨ byteLength text < start) :
    (∀ index, (∃ b, d.block text start = .ok b ∧ b.close = index) ↔ IsLeast (d.closings text start) index) ∧
    (∀ b, d.block text start = .ok b → b.start = start ∧ isBoundary b.close text ∧ d.Balanced b.body ∧
      ∃ pre post, text = pre ++ (b.body ++ post) ∧ byteLength pre = start ∧ byteLength (pre ++ b.body) = b.close) ∧
    (∀ e, d.block text start = .error e ↔ e = .unbalanced start ∧ d.closings text start = ∅) ∧
    (∀ depth read rest, d.Reaches (textFrom start text) depth read rest →
      0 < depth ∧ (depth : Int) = 1 + read.count d.opening - read.count d.closing ∧
        d.bodyOf? 1 [] (textFrom start text) = d.bodyOf? depth read rest) := by
  have searched : ∀ depth read rest, d.Reaches (textFrom start text) depth read rest →
      0 < depth ∧ (depth : Int) = 1 + read.count d.opening - read.count d.closing ∧
        d.bodyOf? 1 [] (textFrom start text) = d.bodyOf? depth read rest := by
    intro depth read rest reaches
    obtain ⟨pos, _, level, same⟩ := reaches.invariant distinct
    exact ⟨pos, by omega, same⟩
  obtain cut | past := boundary
  · obtain ⟨pre, post, rfl, rfl⟩ := isBoundary_iff.mp cut
    have ok_iff (b : Block) := @block_eq_ok_iff d pre post distinct b
    refine ⟨fun index => ?_, fun b found => ?_, fun e => ?_, searched⟩
    · constructor
      · rintro ⟨b, found, rfl⟩
        obtain ⟨body, rest, rfl, balanced, rfl⟩ := (ok_iff b).mp found
        exact balanced.isLeast opening closing distinct
      · intro least
        obtain ⟨body, rest, rfl, balanced⟩ := exists_balanced_of_mem_closings opening closing distinct least.1
        exact ⟨_, (ok_iff _).mpr ⟨body, rest, rfl, balanced, rfl⟩,
          (balanced.isLeast opening closing distinct).unique least⟩
    · obtain ⟨body, rest, rfl, balanced, rfl⟩ := (ok_iff b).mp found
      refine ⟨rfl, isBoundary_iff.mpr ⟨pre ++ body, d.closing :: rest, by simp, by simp⟩, balanced, ?_⟩
      exact ⟨pre, d.closing :: rest, rfl, rfl, by simp⟩
    · rw [block_eq_error_iff distinct]
      constructor
      · rintro ⟨none, rfl⟩
        refine ⟨rfl, Set.eq_empty_of_forall_notMem fun index mem => ?_⟩
        obtain ⟨body, rest, e, balanced⟩ := exists_balanced_of_mem_closings opening closing distinct mem
        exact none body rest e balanced
      · rintro ⟨rfl, none⟩
        refine ⟨fun body rest e balanced => ?_, rfl⟩
        have least : IsLeast (d.closings (pre ++ (body ++ d.closing :: rest)) (byteLength pre)) _ :=
          balanced.isLeast opening closing distinct
        rw [← e, none] at least
        exact least.1
  · rw [block_of_lt past, closings_of_lt past]
    refine ⟨fun index => ?_, fun b found => ?_, fun e => ?_, searched⟩
    · exact iff_of_false (by simp) fun least => least.1
    · simp at found
    · simp [eq_comm]

/-- A block with a character of three bytes before the parenthesis that closes it. -/
theorem block_closes_at_first_zero_three_bytes :
    let d : Delimiters := ⟨'[', ']'⟩
    let text := "x[図[]]]".toList
    d.opening ≠ d.closing ∧ d.opening.toNat < 128 ∧ d.closing.toNat < 128 ∧ isBoundary 2 text ∧
      d.block text 2 = .ok ⟨2, 7, "図[]".toList⟩ ∧ IsLeast (d.closings text 2) 7 := by
  intro d text
  have distinct : d.opening ≠ d.closing := by decide
  have opening : d.opening.toNat < 128 := by decide
  have closing : d.closing.toNat < 128 := by decide
  have boundary : isBoundary 2 text := by decide
  have found : d.block text 2 = .ok ⟨2, 7, "図[]".toList⟩ := by decide +kernel
  obtain ⟨least, _⟩ := block_closes_at_first_zero distinct opening closing (.inl boundary)
  exact ⟨distinct, opening, closing, boundary, found, (least 7).mp ⟨_, found, rfl⟩⟩

end FigureGallery.Markup.Delimiters
