import FigureGallery.Html.Escape
import FigureGallery.Text.Hexadecimal
import Mathlib.Tactic.Lemma

/-!
# Reading HTML

What a reader of a page makes of its characters. Each one is read as markup or as text, which depends only on whether
the reader stands between two tags, inside a tag, or in a quoted value there. In a text, references are undone.

Escaped text that the reader meets outside of a tag, or in a quoted value, is read as text, and it shows what was escaped.
-/

namespace FigureGallery.Html

/-- The character that a reference stands for, by what is between its ampersand and its semicolon. -/
def referent? (name : List Char) : Option Char :=
  match name with
  | '#' :: 'x' :: digits => (Text.hexNumber? digits).map Char.ofNat
  | '#' :: digits => (String.ofList digits).toNat?.map Char.ofNat
  | name => [("lt", '<'), ("gt", '>'), ("amp", '&'), ("quot", '"'), ("apos", '\'')].lookup (String.ofList name)

/-- The text that a written text shows: each reference becomes the character that it stands for. -/
def unescape : List Char → List Char
  | [] => []
  | '&' :: rest =>
    match referent? (rest.takeWhile (· != ';')) with
    | some c => c :: unescape (rest.dropWhile (· != ';')).tail
    | none => '&' :: unescape rest
  | c :: rest => c :: unescape rest
termination_by text => text.length
decreasing_by
  · have shorter : (rest.dropWhile (· != ';')).length ≤ rest.length := (List.dropWhile_suffix _).length_le
    simp only [List.length_tail, List.length_cons]
    omega
  · simp
  · simp

/-- Where a reader stands. -/
inductive Place where
  /-- Before, between or behind tags. -/
  | content
  /-- Inside a tag. -/
  | tag
  /-- Inside a tag, in a value that ends with a quotation mark. -/
  | quoted (mark : Char)
deriving DecidableEq

namespace Place

/-- Whether a character belongs to the markup, and is not read as text. -/
def isMarkup : Place → Char → Bool
  | .content, c => c == '<'
  | .tag, _ => true
  | .quoted mark, c => c == mark

/-- Where the reader stands after a character. -/
def next : Place → Char → Place
  | .content, c => if c = '<' then .tag else .content
  | .tag, c => if c = '>' then .content else if c = '"' ∨ c = '\'' then .quoted c else .tag
  | .quoted mark, c => if c = mark then .tag else .quoted mark

/-- Where the reader stands after a text. -/
def after (place : Place) (text : List Char) : Place :=
  text.foldl next place

/-- Whether the reader stands where text is read. -/
def isOpen : Place → Bool
  | .content => true
  | .tag => false
  | .quoted mark => isActive mark

/-- The characters of a text that belong to the markup. -/
def markup (place : Place) : List Char → List Char
  | [] => []
  | c :: rest => if place.isMarkup c then c :: (place.next c).markup rest else (place.next c).markup rest

end Place

/-- The markup of a page, without the text in it. -/
def skeleton (page : List Char) : List Char :=
  Place.content.markup page

section Unescape

variable {rest : List Char} {c : Char}

lemma unescape_cons (plain : c ≠ '&') : unescape (c :: rest) = c :: unescape rest := by
  rw [unescape]
  exact plain

/-- A reference is undone, whatever follows it. -/
lemma unescape_named (name : List Char) (known : referent? name = some c) (closed : ';' ∉ name) :
    unescape ('&' :: (name ++ ';' :: rest)) = c :: unescape rest := by
  have kept : ∀ d ∈ name, (d != ';') = true := by
    intro d mem
    exact bne_iff_ne.mpr (ne_of_mem_of_not_mem mem closed)
  rw [unescape, List.takeWhile_append_of_pos kept, List.dropWhile_append_of_pos kept, List.takeWhile_cons_of_neg (by simp),
    List.dropWhile_cons_of_neg (by simp), List.append_nil, known]
  rfl

lemma unescape_reference_append (c : Char) (rest : List Char) : unescape (reference c ++ rest) = c :: unescape rest := by
  unfold reference
  split
  case h_1 => exact unescape_named ['l', 't'] (by decide) (by decide)
  case h_2 => exact unescape_named ['g', 't'] (by decide) (by decide)
  case h_3 => exact unescape_named ['a', 'm', 'p'] (by decide) (by decide)
  case h_4 => exact unescape_named ['q', 'u', 'o', 't'] (by decide) (by decide)
  case h_5 => exact unescape_named ['#', 'x', '2', '7'] (by decide) (by decide)
  case h_6 => exact unescape_named ['#', 'x', '2', 'f'] (by decide) (by decide)
  case h_7 plain _ _ _ => exact unescape_cons plain

/-- An escaped text shows the text. -/
theorem unescape_escape (text : List Char) : unescape (escape text) = text := by
  induction text with
  | nil => simp [escape, unescape]
  | cons c rest ih =>
    rw [escape, List.flatMap_cons, unescape_reference_append, ← escape, ih]

end Unescape

namespace Place

variable {place : Place} {text rest : List Char}

lemma after_toList {s : String} (e : s = String.ofList text) : place.after s.toList = place.after text := by
  rw [e, String.toList_ofList]

lemma markup_append : place.markup (text ++ rest) = place.markup text ++ (place.after text).markup rest := by
  induction text generalizing place with
  | nil => rfl
  | cons c text ih =>
    rw [List.cons_append, markup, markup, ih]
    split <;> rfl

/-- A character that is not active is read as text where text is read, and the reader stays there. -/
lemma isMarkup_eq_false {c : Char} (opened : place.isOpen) (inert : isActive c = false) :
    place.isMarkup c = false ∧ place.next c = place := by
  cases place with
  | content =>
    have plain : c ≠ '<' := by rintro rfl; exact absurd inert (by decide)
    simp [isMarkup, next, plain]
  | tag => simp [isOpen] at opened
  | quoted mark =>
    have plain : c ≠ mark := by rintro rfl; rw [isOpen, inert] at opened; cases opened
    simp [isMarkup, next, plain]

/-- A text without active characters is read as text where text is read, and the reader stays there. -/
lemma markup_eq_nil (opened : place.isOpen) (inert : ∀ c ∈ text, isActive c = false) :
    place.markup text = [] ∧ place.after text = place := by
  induction text with
  | nil => exact ⟨rfl, rfl⟩
  | cons c text ih =>
    obtain ⟨plain, stays⟩ := isMarkup_eq_false opened (inert c List.mem_cons_self)
    obtain ⟨none, place⟩ := ih fun d mem => inert d (List.mem_cons_of_mem _ mem)
    refine ⟨?_, ?_⟩
    · rw [markup, plain, if_neg (by simp), stays, none]
    · rw [after, List.foldl_cons, stays, ← after, place]

end Place

end FigureGallery.Html
