/-!
# Text in HTML

Characters with a meaning in HTML are written as references, so that a text shows as it is and never ends the element or
the attribute it stands in. Slashes are written as references too.
-/

namespace FigureGallery.Html

/-- The way a character is written. -/
def reference (c : Char) : List Char :=
  match c with
  | '<' => "&lt;".toList
  | '>' => "&gt;".toList
  | '&' => "&amp;".toList
  | '"' => "&quot;".toList
  | '\'' => "&#x27;".toList
  | '/' => "&#x2f;".toList
  | c => [c]

/-- The way a text is written. -/
def escape (text : List Char) : List Char :=
  text.flatMap reference

/-- The characters that no escaped text holds. -/
def isActive (c : Char) : Bool :=
  c == '<' || c == '>' || c == '"' || c == '\''

/-- A reference holds no active character. -/
theorem all_reference (c : Char) : (reference c).all (fun d => !isActive d) = true := by
  unfold reference
  split
  case h_7 h₁ h₂ h₃ h₄ h₅ h₆ =>
    simp only [List.all_cons, List.all_nil, Bool.and_true, Bool.not_eq_true', isActive, Bool.or_eq_false_iff,
      beq_eq_false_iff_ne]
    exact ⟨⟨⟨h₁, h₂⟩, h₄⟩, h₅⟩
  all_goals decide

/-- A reference holds no active character. -/
theorem not_isActive_of_mem_reference {c d : Char} (h : d ∈ reference c) : isActive d = false := by
  simpa using List.all_eq_true.mp (all_reference c) d h

/-- An escaped text holds no active character. -/
theorem not_isActive_of_mem_escape {text : List Char} {d : Char} (h : d ∈ escape text) : isActive d = false := by
  obtain ⟨c, _, hd⟩ := List.mem_flatMap.mp h
  exact not_isActive_of_mem_reference hd

end FigureGallery.Html
