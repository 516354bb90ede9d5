/-!
# Markers in a text

The first place at which a marker stands, and the first place at which a given shape starts.
-/

namespace FigureGallery.Markup

/-- What follows the first place at which a marker stands. -/
def afterFirst? (marker : List Char) : List Char → Option (List Char)
  | [] => if marker = [] then some [] else none
  | c :: cs => match marker.isPrefixOf? (c :: cs) with
    | some rest => some rest
    | none => afterFirst? marker cs

/-- Whether a marker stands anywhere in a text. -/
def holds (marker text : List Char) : Bool :=
  (afterFirst? marker text).isSome

/-- What a shape yields at the first place of a text at which it starts. -/
def firstMatch? {α : Type} (shape? : List Char → Option α) : List Char → Option α
  | [] => shape? []
  | c :: cs => match shape? (c :: cs) with
    | some a => some a
    | none => firstMatch? shape? cs

/-- What stands before the rest is the start that was asked for. -/
theorem eq_append_of_isPrefixOf? {marker text rest : List Char} (h : marker.isPrefixOf? text = some rest) :
    text = marker ++ rest := by
  induction marker generalizing text with
  | nil => exact Option.some.inj h
  | cons m ms ih =>
    cases text with
    | nil => exact nomatch (show none = some rest from h)
    | cons c cs =>
      change (if m == c then ms.isPrefixOf? cs else none) = some rest at h
      split at h
      · rename_i hc
        rw [ih h, eq_of_beq hc, List.cons_append]
      · simp at h

/-- What follows a marker is shorter than the text by the marker at least. -/
theorem length_afterFirst?_le {marker text rest : List Char} (h : afterFirst? marker text = some rest) :
    rest.length + marker.length ≤ text.length := by
  induction text with
  | nil =>
    simp only [afterFirst?] at h
    split at h
    · rename_i hm; simp_all
    · simp at h
  | cons c cs ih =>
    simp only [afterFirst?] at h
    split at h
    · rename_i r hr
      obtain rfl := Option.some.inj h
      have hl := congrArg List.length (eq_append_of_isPrefixOf? hr)
      simp only [List.length_append] at hl
      omega
    · have := ih h
      simp only [List.length_cons]
      omega

end FigureGallery.Markup
