import FigureGallery.Text.Blank
import FigureGallery.Markup.Marker

/-!
# Shapes of the markup

The few constructs of the markup language that figures and includes are recognised by. Each is a function on the
text from some place on, which says whether the construct starts there.
-/

namespace FigureGallery.Markup

/-- A keyword, blanks and one more character: what follows them. -/
def keywordThen? (keyword : List Char) (c : Char) (text : List Char) : Option (List Char) :=
  match keyword.isPrefixOf? text with
  | none => none
  | some rest => match Text.trimStart rest with
    | [] => none
    | d :: ds => if d = c then some ds else none

/-- A closed run of at least one character: its text, and what follows the closing character. -/
def runUntil? (closing : Char) (text : List Char) : Option (List Char × List Char) :=
  match text.takeWhile (· != closing), text.dropWhile (· != closing) with
  | c :: cs, _ :: rest => some (c :: cs, rest)
  | _, _ => none

/-- What follows the parenthesis of a `figure` call. -/
def figureOpening? (text : List Char) : Option (List Char) :=
  keywordThen? "figure".toList '(' text

/-- The path of an `image` call. -/
def imageReference? (text : List Char) : Option (List Char) :=
  (keywordThen? "image".toList '(' text).bind fun rest => match Text.trimStart rest with
    | '"' :: quoted => (runUntil? '"' quoted).map Prod.fst
    | _ => none

/-- The content of a caption in brackets, up to the first closing bracket. -/
def bracketCaption? (text : List Char) : Option (List Char) :=
  (keywordThen? "caption:".toList '[' text).bind fun rest =>
    if rest.contains ']' then some (rest.takeWhile (· != ']')) else none

/-- The content of a caption in quotes. -/
def quotedCaption? (text : List Char) : Option (List Char) :=
  (keywordThen? "caption:".toList '"' text).bind fun rest => (runUntil? '"' rest).map Prod.fst

/-- The name of a label at the start of a text, after blanks and at most one hash. -/
def label? (text : List Char) : Option (List Char) :=
  let afterHash := match Text.trimStart text with
    | '#' :: rest => Text.trimStart rest
    | rest => rest
  match afterHash with
  | '<' :: name => (runUntil? '>' name).map Prod.fst
  | _ => none

/-- What follows blanks is no longer than the text. -/
theorem length_trimStart_le (text : List Char) : (Text.trimStart text).length ≤ text.length :=
  (List.dropWhile_sublist _).length_le

/-- What follows a keyword and one more character is shorter than the text. -/
theorem length_keywordThen?_lt {keyword : List Char} {c : Char} {text rest : List Char}
    (h : keywordThen? keyword c text = some rest) : rest.length < text.length := by
  simp only [keywordThen?] at h
  split at h
  · simp at h
  · rename_i r hr
    have hl := congrArg List.length (eq_append_of_isPrefixOf? hr)
    have := length_trimStart_le r
    split at h
    · simp at h
    · rename_i d ds hd
      split at h
      · rw [hd, Option.some.inj h, List.length_cons] at this
        rw [List.length_append] at hl
        omega
      · simp at h

/-- What follows a closed run is shorter than the text by two characters at least. -/
theorem length_runUntil?_lt {closing : Char} {text run rest : List Char}
    (h : runUntil? closing text = some (run, rest)) : rest.length + 1 < text.length := by
  simp only [runUntil?] at h
  split at h
  · rename_i c cs d ds ht hd
    obtain ⟨rfl, rfl⟩ := Prod.mk.inj (Option.some.inj h)
    have hl := congrArg List.length (List.takeWhile_append_dropWhile (p := (· != closing)) (l := text))
    simp only [ht, hd, List.length_append, List.length_cons] at hl
    omega
  · simp at h

end FigureGallery.Markup
