import FigureGallery.Path.Basic
import Mathlib.Data.List.TakeWhile
import Mathlib.Tactic.Lemma

/-!
# Parts of a path

Splitting a text at its slashes and joining parts with slashes are inverse to each other on parts without slashes, and
splitting turns a slash between two texts into a concatenation. Plain parts are those that name an entry.
-/

namespace FigureGallery.Path

/-- A part that names an entry: it is neither idle nor `..`, and it has no slash. -/
structure Plain (s : List Char) : Prop where
  not_idle : isIdle s = false
  not_up : s ≠ ['.', '.']
  no_slash : '/' ∉ s

instance (s : List Char) : Decidable (Plain s) :=
  decidable_of_iff (isIdle s = false ∧ s ≠ ['.', '.'] ∧ '/' ∉ s)
    ⟨fun h => ⟨h.1, h.2.1, h.2.2⟩, fun plain => ⟨plain.not_idle, plain.not_up, plain.no_slash⟩⟩

/-- A plain part is not empty. -/
lemma Plain.ne_nil {s : List Char} (plain : Plain s) : s ≠ [] := by
  rintro rfl
  exact absurd plain.not_idle (by decide)

/-- A text has at least one part. -/
lemma segments_ne_nil (cs : List Char) : segments cs ≠ [] := by
  cases cs with
  | nil => simp [segments]
  | cons c cs =>
    rw [segments]
    split
    · simp
    · split <;> simp

/-- A character in front of a text goes to the first part. -/
lemma segments_cons {c : Char} (hc : c ≠ '/') {cs s : List Char} {ss : List (List Char)}
    (e : segments cs = s :: ss) : segments (c :: cs) = (c :: s) :: ss := by
  rw [segments, if_neg hc, e]

/-- A slash between two texts separates their parts. -/
lemma segments_append_slash (a b : List Char) : segments (a ++ '/' :: b) = segments a ++ segments b := by
  induction a with
  | nil => simp [segments]
  | cons c cs ih =>
    by_cases hc : c = '/'
    · simp [segments, hc, ih]
    · obtain ⟨s, ss, e⟩ := List.exists_cons_of_ne_nil (segments_ne_nil cs)
      rw [e, List.cons_append] at ih
      rw [List.cons_append, segments_cons hc ih, segments_cons hc e, List.cons_append]

/-- A text without slashes is its only part. -/
lemma segments_of_notMem {s : List Char} (h : '/' ∉ s) : segments s = [s] := by
  induction s with
  | nil => rfl
  | cons c cs ih =>
    obtain ⟨hc, hcs⟩ := List.ne_and_not_mem_of_not_mem_cons h
    exact segments_cons (Ne.symm hc) (ih hcs)

/-- Parts have no slashes. -/
lemma notMem_of_mem_segments {cs s : List Char} (h : s ∈ segments cs) : '/' ∉ s := by
  induction cs generalizing s with
  | nil =>
    obtain rfl := List.mem_singleton.mp h
    simp
  | cons c cs ih =>
    by_cases hc : c = '/'
    · rw [segments, if_pos hc] at h
      obtain rfl | h := List.mem_cons.mp h
      · simp
      · exact ih h
    · obtain ⟨t, ts, e⟩ := List.exists_cons_of_ne_nil (segments_ne_nil cs)
      rw [e] at ih
      rw [segments_cons hc e] at h
      obtain rfl | h := List.mem_cons.mp h
      · exact List.not_mem_cons_of_ne_of_not_mem (Ne.symm hc) (ih List.mem_cons_self)
      · exact ih (List.mem_cons_of_mem _ h)

@[simp]
lemma joinSegments_nil : joinSegments [] = [] := rfl

@[simp]
lemma joinSegments_singleton (s : List Char) : joinSegments [s] = s := by
  simp [joinSegments, List.intercalate]

/-- A first part is joined to the others by a slash. -/
lemma joinSegments_cons (s : List Char) {ss : List (List Char)} (h : ss ≠ []) :
    joinSegments (s :: ss) = s ++ '/' :: joinSegments ss := by
  obtain ⟨t, ts, rfl⟩ := List.exists_cons_of_ne_nil h
  simp [joinSegments, List.intercalate, List.intersperse]

/-- Joined parts begin as the first one does. -/
lemma head?_joinSegments (c : Char) (cs : List Char) (ss : List (List Char)) :
    (joinSegments ((c :: cs) :: ss)).head? = some c := by
  by_cases h : ss = []
  · rw [h, joinSegments_singleton, List.head?_cons]
  · rw [joinSegments_cons _ h, List.cons_append, List.head?_cons]

/-- Parts are joined to further parts by a slash. -/
lemma joinSegments_append {ss ts : List (List Char)} (h : ss ≠ []) (h' : ts ≠ []) :
    joinSegments (ss ++ ts) = joinSegments ss ++ '/' :: joinSegments ts := by
  induction ss with
  | nil => exact absurd rfl h
  | cons s ss ih =>
    by_cases e : ss = []
    · subst e
      rw [List.singleton_append, joinSegments_cons s h', joinSegments_singleton]
    · rw [List.cons_append, joinSegments_cons s (by simp [e]), ih e, joinSegments_cons s e, List.append_assoc,
        List.cons_append]

/-- A last part is joined to the others by a slash. -/
lemma joinSegments_concat {ss : List (List Char)} (h : ss ≠ []) (s : List Char) :
    joinSegments (ss ++ [s]) = joinSegments ss ++ '/' :: s := by
  rw [joinSegments_append h (by simp), joinSegments_singleton]

/-- Joined parts are found again. -/
lemma segments_joinSegments {ss : List (List Char)} (h : ss ≠ []) (noSlash : ∀ s ∈ ss, '/' ∉ s) :
    segments (joinSegments ss) = ss := by
  induction ss with
  | nil => exact absurd rfl h
  | cons s ss ih =>
    obtain ⟨hs, hss⟩ := List.forall_mem_cons.mp noSlash
    by_cases e : ss = []
    · subst e
      rw [joinSegments_singleton, segments_of_notMem hs]
    · rw [joinSegments_cons s e, segments_append_slash, segments_of_notMem hs, ih e hss, List.singleton_append]

/-- Without idle parts at the end nothing is trimmed. -/
lemma trimIdle_concat (ss : List (List Char)) {s : List Char} (h : isIdle s = false) :
    trimIdle (ss ++ [s]) = ss ++ [s] := by
  simp [trimIdle, h]

/-- Parts that are not idle stay. -/
lemma trimIdle_eq_self {ss : List (List Char)} (h : ∀ s ∈ ss, isIdle s = false) : trimIdle ss = ss := by
  rcases List.eq_nil_or_concat ss with rfl | ⟨init, s, rfl⟩
  · rfl
  · rw [List.concat_eq_append] at h ⊢
    exact trimIdle_concat init (h s (by simp))

/-- What is trimmed are idle parts at the end. -/
lemma eq_trimIdle_append (ss : List (List Char)) :
    ∃ idle, ss = trimIdle ss ++ idle ∧ ∀ s ∈ idle, isIdle s := by
  refine ⟨(ss.reverse.takeWhile isIdle).reverse, ?_, fun s mem => ?_⟩
  · have h := congrArg List.reverse (List.takeWhile_append_dropWhile (p := isIdle) (l := ss.reverse))
    rw [List.reverse_append, List.reverse_reverse] at h
    exact h.symm
  · exact List.mem_takeWhile_imp (List.mem_reverse.mp mem)

/-- What is left after trimming ends in a part that is not idle. -/
lemma not_idle_of_trimIdle_eq {ss init : List (List Char)} {s : List Char} (e : trimIdle ss = init ++ [s]) :
    isIdle s = false := by
  have h : ss.reverse.dropWhile isIdle = s :: init.reverse := by
    have h := congrArg List.reverse e
    rwa [trimIdle, List.reverse_reverse, List.reverse_concat] at h
  have := List.head?_dropWhile_not isIdle ss.reverse
  rw [h] at this
  simpa using this

end FigureGallery.Path
