import FigureGallery.Proofs.Markup.Shape
import Mathlib.Data.List.Infix

/-!
# Constructs that do not start in a text

A construct starts in a text when one of its beginnings is an end of the text. To know that none does, whatever follows the
text, it is enough that the text lacks the first character of the constructs, or that it lacks whole constructs and ends
with a character that they do not hold. Such texts can be put together, and every search passes over them.
-/

namespace FigureGallery.Markup

/-- No construct of a shape starts in a text, whatever follows. -/
def Lacks (shape : List Char → Prop) (text : List Char) : Prop :=
  ∀ pre post rest construct, text = pre ++ post → post ≠ [] → shape construct → ¬ construct <+: post ++ rest

variable {shape : List Char → Prop} {text other : List Char}

lemma lacks_nil : Lacks shape [] := by
  intro pre post rest construct e nonempty
  exact absurd (List.append_eq_nil_iff.mp e.symm).2 nonempty

/-- What starts in neither of two texts does not start in both together. -/
lemma Lacks.append (lacks : Lacks shape text) (lacks' : Lacks shape other) : Lacks shape (text ++ other) := by
  intro pre post rest construct e nonempty is
  obtain ⟨mid, rfl, rfl⟩ | ⟨mid, rfl, rfl⟩ := List.append_eq_append_iff.mp e
  · exact lacks' mid post rest construct rfl nonempty is
  · cases mid with
    | nil => exact lacks' [] other rest construct rfl nonempty is
    | cons c mid =>
      rw [List.append_assoc]
      exact lacks pre (c :: mid) (other ++ rest) construct rfl (List.cons_ne_nil c mid) is

/-- No opening starts where its keyword does not. -/
lemma Lacks.isOpening {keyword : List Char} {last : Char} (lacks : Lacks (· = keyword) text) :
    Lacks (IsOpening keyword last) text := by
  rintro pre post rest _ e nonempty ⟨blanks, _, rfl⟩ starts
  rw [List.append_assoc] at starts
  exact lacks pre post rest keyword e nonempty rfl ((List.prefix_append _ _).trans starts)

/-- Without their first character no constructs start. -/
lemma lacks_of_notMem {c : Char} (starts : ∀ construct, shape construct → construct.head? = some c) (notMem : c ∉ text) :
    Lacks shape text := by
  rintro pre post rest construct rfl nonempty is ⟨more, e⟩
  obtain ⟨tail, rfl⟩ := List.head?_eq_some_iff.mp (starts construct is)
  obtain ⟨d, post, rfl⟩ := List.exists_cons_of_ne_nil nonempty
  obtain rfl := (List.cons.inj e).1
  exact notMem (by simp)

/-- A text that holds no construct, behind it a character that no construct holds. -/
lemma lacks_concat {c : Char} (bars : ∀ construct, shape construct → c ∉ construct)
    (absent : ∀ construct, shape construct → ¬ construct <:+: text) : Lacks shape (text ++ [c]) := by
  rintro pre post rest construct e nonempty is ⟨more, starting⟩
  obtain ⟨post, d, rfl⟩ := (List.eq_nil_or_concat post).resolve_left nonempty
  rw [List.concat_eq_append, ← List.append_assoc] at e
  obtain ⟨rfl, last⟩ := List.append_inj' e rfl
  obtain rfl := (List.cons.inj last).1
  -- The construct ends in front of the character, so it stands in the text.
  rw [List.concat_eq_append, List.append_assoc, List.singleton_append] at starting
  obtain ⟨mid, rfl, _⟩ | ⟨mid, rfl, behind⟩ := List.append_eq_append_iff.mp starting
  · exact absent construct is ⟨pre, mid, by simp⟩
  · cases mid with
    | nil => exact absent _ is ⟨pre, [], by simp⟩
    | cons d mid =>
      obtain rfl := (List.cons.inj behind).1
      exact bars _ is (by simp)

lemma Lacks.tail {c : Char} {cs : List Char} (lacks : Lacks shape (c :: cs)) : Lacks shape cs := by
  rintro pre post rest construct rfl
  exact lacks (c :: pre) post rest construct rfl

/-- The search for the first place of a shape passes over a text in which none starts. -/
lemma Lacks.firstMatch?_append {α : Type} {shape? : List Char → Option α} (lacks : Lacks shape text)
    (found : ∀ text a, shape? text = some a → ∃ construct, shape construct ∧ construct <+: text) (rest : List Char) :
    firstMatch? shape? (text ++ rest) = firstMatch? shape? rest := by
  induction text with
  | nil => rfl
  | cons c cs ih =>
    have here : shape? (c :: (cs ++ rest)) = none := by
      by_contra isSome
      obtain ⟨a, some⟩ := Option.ne_none_iff_exists'.mp isSome
      obtain ⟨construct, is, starts⟩ := found _ a some
      exact lacks [] (c :: cs) rest construct rfl (List.cons_ne_nil c cs) is starts
    rw [List.cons_append, firstMatch?, here, ih lacks.tail]

/-- The first place of a marker is the first place of the shape that is this marker. -/
lemma afterFirst?_eq_firstMatch? (marker text : List Char) :
    afterFirst? marker text = firstMatch? marker.isPrefixOf? text := by
  induction text with
  | nil => cases marker <;> rfl
  | cons c cs ih =>
    rw [afterFirst?, firstMatch?, ih]
    cases marker.isPrefixOf? (c :: cs) <;> rfl

/-- The search for a marker passes over a text in which it does not start. -/
lemma Lacks.afterFirst?_append {marker : List Char} (lacks : Lacks (· = marker) text) (rest : List Char) :
    afterFirst? marker (text ++ rest) = afterFirst? marker rest := by
  rw [afterFirst?_eq_firstMatch?, afterFirst?_eq_firstMatch?]
  refine lacks.firstMatch?_append (fun text behind found => ?_) rest
  exact ⟨marker, rfl, behind, (eq_append_of_isPrefixOf? found).symm⟩

end FigureGallery.Markup
