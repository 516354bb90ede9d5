import FigureGallery.Proofs.Markup.Delimiter

/-!
# Nesting of blocks

The end of each block is searched for on its own, with a depth that is counted from the start of this block. Two such
searches agree all the same: what a balanced body opens, it also closes. So a block that is opened inside another one
is closed inside it, and no delimiter closes two blocks.
-/

namespace FigureGallery.Markup

namespace Delimiters

variable {d : Delimiters}

/-- Behind a delimiter that is opened in a balanced body, more is closed than opened. -/
lemma Balanced.count_lt (distinct : d.opening ≠ d.closing) {mid inner : List Char}
    (balanced : d.Balanced (mid ++ d.opening :: inner)) : inner.count d.opening < inner.count d.closing := by
  have level := balanced.level
  have within := balanced.within mid _ rfl
  rw [List.count_append, List.count_append, List.count_cons_self, List.count_cons_of_ne distinct] at level
  omega

/-- A delimiter that is opened behind the start of a block is opened behind its end, or it belongs to the body, and so
does all that it opens up to the delimiter that closes it. -/
lemma apart_or_within (distinct : d.opening ≠ d.closing) {outer mid inner rest rest' : List Char}
    (balanced : d.Balanced outer) (balanced' : d.Balanced inner)
    (e : outer ++ d.closing :: rest = mid ++ d.opening :: (inner ++ d.closing :: rest')) :
    (∃ between, mid = outer ++ d.closing :: between) ∨
      ∃ behind, outer = mid ++ d.opening :: (inner ++ d.closing :: behind) := by
  obtain ⟨between, rfl, h⟩ | ⟨tail, rfl, h⟩ := List.append_eq_append_iff.mp e
  · cases between with
    | nil => exact absurd (List.cons.inj h).1.symm distinct
    | cons c between =>
      obtain rfl := (List.cons.inj h).1
      exact .inl ⟨between, rfl⟩
  · cases tail with
    | nil => exact absurd (List.cons.inj h).1 distinct
    | cons c tail =>
      obtain ⟨rfl, inside⟩ := List.cons.inj h
      -- The rest of the outer body closes more than it opens, so the inner body does not reach as far.
      have more := balanced.count_lt distinct
      have short : ¬ tail <+: inner := by
        rintro ⟨beyond, reaches⟩
        have := balanced'.within tail beyond reaches.symm
        omega
      obtain ⟨behind, rfl, ends⟩ | ⟨beyond, rfl, _⟩ := List.append_eq_append_iff.mp inside
      · cases behind with
        | nil => exact absurd (by simp) short
        | cons c behind =>
          obtain rfl := (List.cons.inj ends).1
          exact .inr ⟨behind, rfl⟩
      · exact absurd (List.prefix_append tail beyond) short

end Delimiters

namespace Block

open Text

/-- The offset of the parenthesis that opens a block. -/
def opening (b : Block) : Nat :=
  b.start - 1

/-- Two blocks have no character in common, from parenthesis to parenthesis. -/
def Apart (a b : Block) : Prop :=
  a.close < b.opening ∨ b.close < a.opening

/-- Both parentheses of a block stand between those of another one. -/
def Within (a b : Block) : Prop :=
  b.opening < a.opening ∧ a.close < b.close

/-- A block of a text, from parenthesis to parenthesis. -/
def Spans (text : List Char) (b : Block) : Prop :=
  ∃ front behind, text = front ++ '(' :: (b.body ++ ')' :: behind) ∧ Delimiters.parentheses.Balanced b.body ∧
    b.start = byteLength front + 1 ∧ b.close = b.start + byteLength b.body

variable {text : List Char} {a b : Block}

/-- The parentheses of a block stand where it says. -/
lemma Spans.parentheses (spans : b.Spans text) :
    (after b.opening text).head? = some '(' ∧ (after b.close text).head? = some ')' := by
  obtain ⟨front, behind, rfl, _, start, close⟩ := spans
  have opens : b.opening = byteLength front := by rw [opening, start, Nat.add_sub_cancel]
  have closes : b.close = byteLength (front ++ '(' :: b.body) := by
    rw [close, start, byteLength_append, byteLength_cons, Nat.add_assoc]
    rfl
  have cut : front ++ '(' :: (b.body ++ ')' :: behind) = front ++ '(' :: b.body ++ ')' :: behind := by simp
  refine ⟨by rw [opens, after_byteLength]; rfl, ?_⟩
  rw [closes, cut, after_byteLength]
  rfl

/-- Of two blocks, the one that is opened later starts behind the other one, or lies within it. -/
lemma Spans.apart_or_within (first : a.Spans text) (second : b.Spans text) (lt : a.start < b.start) :
    a.close < b.opening ∨ b.Within a := by
  obtain ⟨front, rest, rfl, balanced, start, close⟩ := first
  obtain ⟨front', rest', e, balanced', start', close'⟩ := second
  obtain ⟨_, mid, rfl, h⟩ := exists_eq_append_of_byteLength_lt e (by omega)
  obtain ⟨rfl, behind⟩ := List.cons.inj h
  have size : '('.utf8Size = 1 := rfl
  have size' : ')'.utf8Size = 1 := rfl
  have placed : (∃ between, mid = a.body ++ ')' :: between) ∨
      ∃ behind, a.body = mid ++ '(' :: (b.body ++ ')' :: behind) :=
    Delimiters.apart_or_within (by decide) balanced balanced' behind
  rw [byteLength_append, byteLength_cons] at start'
  obtain ⟨between, rfl⟩ | ⟨beyond, body⟩ := placed
  · rw [byteLength_append, byteLength_cons] at start'
    rw [opening]
    omega
  · replace body := congrArg byteLength body
    simp only [byteLength_append, byteLength_cons] at body
    rw [Within, opening, opening]
    omega

/-- The blocks of a text are nested: two of them have no character in common, or one lies within the other. -/
lemma Spans.nested (first : a.Spans text) (second : b.Spans text) (ne : a.start ≠ b.start) :
    (a.Apart b ∨ a.Within b ∨ b.Within a) ∧ a.close ≠ b.close := by
  wlog lt : a.start < b.start generalizing a b
  · obtain ⟨nested, closes⟩ := this second first ne.symm (by omega)
    exact ⟨nested.imp Or.symm Or.symm, closes.symm⟩
  · obtain apart | within := first.apart_or_within second lt
    · refine ⟨.inl (.inl apart), ?_⟩
      obtain ⟨_, _, _, _, _, close⟩ := second
      rw [opening] at apart
      omega
    · exact ⟨.inr (.inr within), Nat.ne_of_gt within.2⟩

end Block

end FigureGallery.Markup
