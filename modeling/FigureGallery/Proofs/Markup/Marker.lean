import FigureGallery.Markup.Marker
import Mathlib.Tactic.Lemma

/-!
# First places

A place of a text is a cut: what stands before it and what follows. The search for a shape finds it at the first place
where it starts, and fails only when it starts nowhere.
-/

namespace FigureGallery.Markup

/-- A text starts with what it was put together from. -/
lemma isPrefixOf?_append (marker rest : List Char) : marker.isPrefixOf? (marker ++ rest) = some rest := by
  induction marker with
  | nil => rfl
  | cons m ms ih =>
    change (if m == m then ms.isPrefixOf? (ms ++ rest) else none) = some rest
    rw [if_pos (beq_self_eq_true m), ih]

variable {α : Type} {shape? : List Char → Option α}

/-- The search fails when the shape starts nowhere. -/
lemma firstMatch?_eq_none_iff {text : List Char} :
    firstMatch? shape? text = none ↔ ∀ pre post, text = pre ++ post → shape? post = none := by
  induction text with
  | nil =>
    constructor
    · intro h pre post e
      obtain ⟨_, rfl⟩ := List.append_eq_nil_iff.mp e.symm
      exact h
    · intro h
      exact h [] [] rfl
  | cons c cs ih =>
    constructor
    · intro h pre post e
      simp only [firstMatch?] at h
      split at h
      · simp at h
      · rename_i none
        cases pre with
        | nil => exact (List.nil_append post ▸ e) ▸ none
        | cons d pre => exact ih.mp h pre post (List.cons.inj e).2
    · intro h
      simp only [firstMatch?, h [] (c :: cs) rfl]
      exact ih.mpr fun pre post e => h (c :: pre) post (by rw [e, List.cons_append])

/-- The search yields what the shape yields at a place before which it starts nowhere. -/
lemma firstMatch?_eq_some_iff {text : List Char} {a : α} :
    firstMatch? shape? text = some a ↔
      ∃ pre post, text = pre ++ post ∧ shape? post = some a ∧
        ∀ pre' post', text = pre' ++ post' → pre'.length < pre.length → shape? post' = none := by
  induction text with
  | nil =>
    constructor
    · intro h
      exact ⟨[], [], rfl, h, by simp⟩
    · rintro ⟨pre, post, e, h, _⟩
      obtain ⟨_, rfl⟩ := List.append_eq_nil_iff.mp e.symm
      exact h
  | cons c cs ih =>
    constructor
    · intro h
      simp only [firstMatch?] at h
      split at h
      · rename_i found
        exact ⟨[], c :: cs, rfl, found.trans h, by simp⟩
      · rename_i none
        obtain ⟨pre, post, rfl, found, first⟩ := ih.mp h
        refine ⟨c :: pre, post, rfl, found, fun pre' post' e lt => ?_⟩
        cases pre' with
        | nil => exact (List.nil_append post' ▸ e) ▸ none
        | cons d pre' => exact first pre' post' (List.cons.inj e).2 (Nat.lt_of_succ_lt_succ lt)
    · rintro ⟨pre, post, e, found, first⟩
      cases pre with
      | nil =>
        rw [List.nil_append] at e
        simp only [firstMatch?, e, found]
      | cons d pre =>
        obtain ⟨rfl, rfl⟩ := List.cons.inj e
        have here : shape? (c :: (pre ++ post)) = none := first [] _ rfl (Nat.zero_lt_succ _)
        simp only [List.append_eq, firstMatch?, here]
        refine ih.mpr ⟨pre, post, rfl, found, fun pre' post' e' lt => ?_⟩
        exact first (c :: pre') post' (by rw [List.cons_append, ← e']) (Nat.succ_lt_succ lt)

/-- A construct of a shape stands in a text. -/
def Holds (shape : α → List Char → Prop) (text : List Char) : Prop :=
  ∃ pre a construct post, text = pre ++ (construct ++ post) ∧ shape a construct

/-- A construct of a shape stands in a text, and none starts further left. -/
def First (shape : α → List Char → Prop) (text : List Char) (a : α) : Prop :=
  ∃ pre construct post, text = pre ++ (construct ++ post) ∧ shape a construct ∧
    ∀ pre' a' construct' post', text = pre' ++ (construct' ++ post') → shape a' construct' → pre.length ≤ pre'.length

section Constructs

variable {shape : α → List Char → Prop} {text : List Char}
  (spec : ∀ {text a}, shape? text = some a ↔ ∃ construct rest, shape a construct ∧ text = construct ++ rest)

include spec

/-- The search for the constructs of a shape finds the first one. -/
lemma firstMatch?_eq_some_iff_first {a : α} : firstMatch? shape? text = some a ↔ First shape text a := by
  rw [firstMatch?_eq_some_iff]
  constructor
  · rintro ⟨pre, post, rfl, found, first⟩
    obtain ⟨construct, rest, is, rfl⟩ := spec.mp found
    refine ⟨pre, construct, rest, rfl, is, fun pre' a' construct' post' e is' => Nat.le_of_not_lt fun lt => ?_⟩
    have found' := spec.mpr ⟨construct', post', is', rfl⟩
    rw [first pre' _ e lt] at found'
    cases found'
  · rintro ⟨pre, construct, rest, rfl, is, first⟩
    refine ⟨pre, construct ++ rest, rfl, spec.mpr ⟨construct, rest, is, rfl⟩, fun pre' post' e lt => ?_⟩
    refine Option.eq_none_iff_forall_ne_some.mpr fun a' found' => ?_
    obtain ⟨construct', rest', is', rfl⟩ := spec.mp found'
    exact Nat.not_le_of_lt lt (first pre' a' construct' rest' e is')

/-- The search for the constructs of a shape fails when there is none. -/
lemma firstMatch?_eq_none_iff_not_holds : firstMatch? shape? text = none ↔ ¬ Holds shape text := by
  rw [firstMatch?_eq_none_iff]
  constructor
  · rintro none ⟨pre, a, construct, post, e, is⟩
    have found := spec.mpr ⟨construct, post, is, rfl⟩
    rw [none pre _ e] at found
    cases found
  · intro none pre post e
    refine Option.eq_none_iff_forall_ne_some.mpr fun a found => ?_
    obtain ⟨construct, rest, is, rfl⟩ := spec.mp found
    exact none ⟨pre, a, construct, rest, e, is⟩

end Constructs

end FigureGallery.Markup
