import FigureGallery.Figure.Extraction
import FigureGallery.Proofs.Markup.Shape
import FigureGallery.Proofs.Text.Cut
import Mathlib.Data.List.Sort

/-!
# Occurrences of figure calls

The search for calls goes on behind the opening parenthesis of each call it finds. As an opening holds its first letter
only once, no other call starts inside it, so the search finds every place of the text where a call starts, from left
to right.
-/

namespace FigureGallery.Extraction

open Markup Text

/-- The opening of a `figure` call, from its keyword to its parenthesis. -/
abbrev IsFigureOpening (opening : List Char) : Prop :=
  IsOpening "figure".toList '(' opening

/-- A place of a text where a `figure` call starts. -/
def IsCall (text : List Char) (place : Occurrence) : Prop :=
  ∃ pre opening post, text = pre ++ opening ++ post ∧ IsFigureOpening opening ∧
    place = ⟨byteLength pre, byteLength (pre ++ opening)⟩

/-- A text that starts with the opening of a call. -/
lemma figureOpening?_eq_some_iff {text rest : List Char} :
    figureOpening? text = some rest ↔ ∃ opening, IsFigureOpening opening ∧ text = opening ++ rest :=
  keywordThen?_eq_some_iff (by decide)

/-- An opening starts with a letter that it does not hold again. -/
lemma IsFigureOpening.eq_cons {opening : List Char} (opens : IsFigureOpening opening) :
    ∃ tail, opening = 'f' :: tail ∧ 'f' ∉ tail := by
  obtain ⟨blanks, blank, rfl⟩ := opens
  refine ⟨"igure".toList ++ blanks ++ ['('], rfl, ?_⟩
  have notBlank : 'f' ∉ blanks := fun mem => absurd (blank 'f' mem) (by decide)
  simp [notBlank]

lemma IsFigureOpening.head?_eq {opening : List Char} (opens : IsFigureOpening opening) : opening.head? = some 'f' := by
  obtain ⟨tail, rfl, _⟩ := opens.eq_cons
  rfl

/-- A text starts with one opening. -/
lemma IsFigureOpening.eq {first second rest post : List Char} (opens : IsFigureOpening first)
    (opens' : IsFigureOpening second) (e : first ++ rest = second ++ post) : first = second ∧ rest = post := by
  have found : figureOpening? (first ++ rest) = some rest := figureOpening?_eq_some_iff.mpr ⟨first, opens, rfl⟩
  obtain rfl := Option.some.inj (found.symm.trans (figureOpening?_eq_some_iff.mpr ⟨second, opens', e⟩))
  exact ⟨List.append_cancel_right e, rfl⟩

/-- Two openings in a text are one, or the second one stands behind the first. -/
lemma IsFigureOpening.behind {first second pre rest post : List Char} (opens : IsFigureOpening first)
    (opens' : IsFigureOpening second) (e : first ++ rest = pre ++ (second ++ post)) :
    pre = [] ∨ ∃ between, pre = first ++ between ∧ rest = between ++ (second ++ post) := by
  obtain ⟨tail, rfl, once⟩ := opens.eq_cons
  obtain ⟨tail', rfl, _⟩ := opens'.eq_cons
  obtain ⟨between, hp, hr⟩ | ⟨inside, hf, hs⟩ := List.append_eq_append_iff.mp e
  · exact .inr ⟨between, hp, hr⟩
  · cases inside with
    | nil => exact .inr ⟨[], by simpa using hf.symm, by simpa using hs.symm⟩
    | cons c inside =>
      -- The second opening would start at a letter inside the first.
      obtain rfl := (List.cons.inj hs).1
      cases pre with
      | nil => exact .inl rfl
      | cons c' pre =>
        have inTail := (List.cons.inj hf).2
        exact absurd (inTail ▸ List.mem_append_right pre List.mem_cons_self) once

/-- The search finds the calls of a text, and nothing else. -/
lemma mem_occurrencesFrom_iff {offset : Nat} {text : List Char} {place : Occurrence} :
    place ∈ occurrencesFrom offset text ↔
      ∃ pre opening post, text = pre ++ opening ++ post ∧ IsFigureOpening opening ∧
        place = ⟨offset + byteLength pre, offset + byteLength (pre ++ opening)⟩ := by
  fun_induction occurrencesFrom offset text with
  | case1 offset text rest found body ih =>
    obtain ⟨first, opens, rfl⟩ := figureOpening?_eq_some_iff.mp found
    have hb : body = offset + byteLength first := by
      simp only [body, byteLength_append]
      omega
    rw [List.mem_cons, ih, hb]
    constructor
    · rintro (rfl | ⟨pre, opening, post, rfl, opens', rfl⟩)
      · exact ⟨[], first, rest, rfl, opens, rfl⟩
      · refine ⟨first ++ pre, opening, post, by simp, opens', ?_⟩
        simp [Nat.add_assoc]
    · rintro ⟨pre, opening, post, e, opens', rfl⟩
      -- A call is the first one itself, or it stands in what follows the opening of the first one.
      rw [List.append_assoc] at e
      obtain rfl | ⟨between, rfl, rfl⟩ := opens.behind opens' e
      · obtain ⟨rfl, rfl⟩ := opens.eq opens' e
        exact .inl (by simp)
      · refine .inr ⟨between, opening, post, by simp, opens', ?_⟩
        simp [Nat.add_assoc]
  | case2 offset none =>
    constructor
    · simp
    · rintro ⟨pre, opening, post, e, opens, _⟩
      obtain ⟨tail, rfl, _⟩ := opens.eq_cons
      simp at e
  | case3 offset c cs none ih =>
    rw [ih]
    constructor
    · rintro ⟨pre, opening, post, rfl, opens, rfl⟩
      refine ⟨c :: pre, opening, post, rfl, opens, ?_⟩
      simp [Nat.add_assoc]
    · rintro ⟨pre, opening, post, e, opens, rfl⟩
      cases pre with
      | nil =>
        have found := figureOpening?_eq_some_iff.mpr ⟨opening, opens, e⟩
        rw [none] at found
        simp at found
      | cons c' pre =>
        obtain ⟨rfl, rfl⟩ := List.cons.inj e
        refine ⟨pre, opening, post, rfl, opens, ?_⟩
        simp [Nat.add_assoc]

/-- The occurrences in a text are the places where a call starts. -/
lemma mem_occurrences_iff {text : List Char} {place : Occurrence} : place ∈ occurrences text ↔ IsCall text place := by
  rw [occurrences, mem_occurrencesFrom_iff]
  simp only [Nat.zero_add, IsCall]

lemma occurrences_nil : occurrences [] = [] := by
  rw [occurrences, occurrencesFrom]
  rfl

/-- Each occurrence starts behind the opening of the one before it. -/
lemma pairwise_occurrencesFrom (offset : Nat) (text : List Char) :
    (occurrencesFrom offset text).Pairwise fun a b => a.body ≤ b.keyword := by
  fun_induction occurrencesFrom offset text with
  | case1 offset text rest found body ih =>
    refine .cons (fun place mem => ?_) ih
    obtain ⟨pre, opening, post, _, _, rfl⟩ := mem_occurrencesFrom_iff.mp mem
    exact Nat.le_add_right body (byteLength pre)
  | case2 => exact .nil
  | case3 offset c cs none ih => exact ih

/-- The body of a call starts behind its keyword. -/
lemma IsCall.keyword_lt_body {text : List Char} {place : Occurrence} (call : IsCall text place) :
    place.keyword < place.body := by
  obtain ⟨pre, opening, post, _, opens, rfl⟩ := call
  obtain ⟨tail, rfl, _⟩ := opens.eq_cons
  have : 'f'.utf8Size = 1 := rfl
  simp only [byteLength_append, byteLength_cons]
  omega

/-- The occurrences are listed from left to right. -/
lemma pairwise_occurrences (text : List Char) : (occurrences text).Pairwise fun a b => a.keyword < b.keyword := by
  refine (pairwise_occurrencesFrom 0 text).imp_of_mem fun mem _ h => ?_
  exact Nat.lt_of_lt_of_le (mem_occurrences_iff.mp mem).keyword_lt_body h

/-- The calls of a text, listed from left to right, are its occurrences. -/
lemma occurrences_eq {text : List Char} {places : List Occurrence}
    (ascending : places.Pairwise fun a b => a.keyword < b.keyword) (calls : ∀ place, place ∈ places ↔ IsCall text place) :
    occurrences text = places := by
  have irrefl : Std.Irrefl fun a b : Occurrence => a.keyword < b.keyword := ⟨fun _ => Nat.lt_irrefl _⟩
  have antisymm : Std.Antisymm fun a b : Occurrence => a.keyword < b.keyword :=
    ⟨fun _ _ h h' => absurd h (Nat.lt_asymm h')⟩
  refine (pairwise_occurrences text).eq_of_mem_iff ascending fun place => ?_
  rw [mem_occurrences_iff, calls]

end FigureGallery.Extraction
