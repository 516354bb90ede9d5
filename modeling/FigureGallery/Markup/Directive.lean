import FigureGallery.Markup.Shape

/-!
# Include directives

Directives name another document in quotes after `#include` or `#import` and at least one blank. The target of a
directive is not empty and may run over line breaks.
-/

namespace FigureGallery.Markup.Directive

/-- What follows the opening quote of a directive. -/
def opening? (text : List Char) : Option (List Char) :=
  let keyword? := match "#include".toList.isPrefixOf? text with
    | some rest => some rest
    | none => "#import".toList.isPrefixOf? text
  match keyword? with
  | some (c :: rest) =>
    if Text.isBlank c then
      match Text.trimStart rest with
      | '"' :: quoted => some quoted
      | _ => none
    else none
  | _ => none

/-- The target of a directive, and what follows its closing quote. -/
def directive? (text : List Char) : Option (List Char × List Char) :=
  (opening? text).bind (runUntil? '"')

/-- What follows the opening quote is shorter than the text. -/
theorem length_opening?_lt {text quoted : List Char} (h : opening? text = some quoted) :
    quoted.length < text.length := by
  simp only [opening?] at h
  split at h
  · rename_i c rest hk
    have hk : rest.length < text.length := by
      split at hk
      · rename_i r hr
        have hl := congrArg List.length (eq_append_of_isPrefixOf? hr)
        simp only [Option.some.inj hk, List.length_append, List.length_cons] at hl
        omega
      · have hl := congrArg List.length (eq_append_of_isPrefixOf? hk)
        simp only [List.length_append, List.length_cons] at hl
        omega
    split at h
    · have := length_trimStart_le rest
      split at h
      · rename_i q hq
        rw [hq, Option.some.inj h, List.length_cons] at this
        omega
      · simp at h
    · simp at h
  · simp at h

/-- What follows a directive is shorter than the text. -/
theorem length_directive?_lt {text target rest : List Char} (h : directive? text = some (target, rest)) :
    rest.length < text.length := by
  obtain ⟨quoted, hq, hr⟩ := Option.bind_eq_some_iff.mp h
  have := length_opening?_lt hq
  have := length_runUntil?_lt hr
  omega

/-- Whether a directive starts anywhere in a text. -/
def startsIn (text : List Char) : Bool :=
  (firstMatch? opening? text).isSome

/-- The targets of the directives of a text, from left to right. After a directive the search goes on behind its
closing quote. -/
def targets (text : List Char) : List (List Char) :=
  match _found : directive? text with
  | some (target, rest) => target :: targets rest
  | none => match text with
    | [] => []
    | _ :: cs => targets cs
  termination_by text.length
  decreasing_by
    · exact length_directive?_lt _found
    · simp

end FigureGallery.Markup.Directive
