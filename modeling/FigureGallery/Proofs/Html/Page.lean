import FigureGallery.Html.Page
import FigureGallery.Proofs.Html.Reading

/-!
# The template of the gallery page

The page is a template with the escaped values of the figures in its slots. The template has one card for each figure, and
knows nothing of a figure but whether it has a label. Every slot stands where text is read, and no escaped value holds an
active character, so all markup of the page is that of the template.
-/

namespace FigureGallery.Html

/-- A value of a figure that its card shows. -/
inductive Field where
  | sourcePath
  | line
  | image
  | caption
  | ordinal
  | label
  | sourceFile

/-- The text that is shown for a value of a figure. -/
def Field.shown (f : Figure) : Field → List Char
  | .sourcePath => f.sourcePath.text.toList
  | .line => (toString f.line).toList
  | .image => imageUrl f.resolvedImage
  | .caption => f.caption.toList
  | .ordinal => (toString f.ordinal).toList
  | .label => f.label.toList
  | .sourceFile => f.sourceFile.toList

/-- A place of the template that is filled in. -/
inductive Slot where
  /-- The number of figures. -/
  | count
  /-- A value of the figure at a position in the list. -/
  | field (position : Nat) (field : Field)

/-- The text that is shown in a slot. -/
def Slot.shown (figures : List Figure) : Slot → List Char
  | .count => (toString figures.length).toList
  | .field position value => (figures[position]?.map fun f => value.shown f).getD []

/-- A part of the template. -/
inductive Part where
  | fixed (text : String)
  | slot (slot : Slot)

namespace Template

section Parts

open FigureGallery.Html.Part

/-- The label of the card at a position. -/
def label (position : Nat) (labelled : Bool) : List Part :=
  if labelled then [fixed " <span class=\"label-id\">", slot (.field position .label), fixed "</span>"] else []

/-- The card at a position. -/
def card (position : Nat) (labelled : Bool) : List Part :=
  [fixed "\n<div class=\"card\" data-path=\"", slot (.field position .sourcePath),
    fixed "\" data-line=\"", slot (.field position .line),
    fixed "\">\n<div class=\"image-container\"><img src=\"", slot (.field position .image),
    fixed "\" alt=\"", slot (.field position .caption),
    fixed "\"></div>\n<div class=\"caption\">\n<span class=\"figure-number\">Figure ",
    slot (.field position .ordinal)]
  ++ label position labelled ++
  [fixed "</span>\n<span class=\"line-number\">", slot (.field position .sourceFile),
    fixed ":", slot (.field position .line),
    fixed "</span>\n<p>", slot (.field position .caption), fixed "</p>\n</div>\n</div>"]

/-- The cards from a position on, one for each figure. -/
def cards (position : Nat) : List Bool → List Part
  | [] => []
  | labelled :: rest => card position labelled ++ cards (position + 1) rest

/-- The list of cards, or the note that there are none. -/
def gallery (labelled : List Bool) : List Part :=
  if labelled.isEmpty then [fixed "\n<p>No figures found in this file.</p>\n"]
  else [fixed "\n<div class=\"gallery\">"] ++ cards 0 labelled ++ [fixed "\n</div>\n"]

/-- The page for as many figures as there are flags, which tell whether a figure has a label. -/
def page (labelled : List Bool) : List Part :=
  [fixed pageStart, slot .count, fixed ")</h1>\n"] ++ gallery labelled ++ [fixed "\n</body>\n</html>"]

end Parts

/-- The text of a part with a text for each slot. -/
def fillPart (value : Slot → List Char) : Part → List Char
  | .fixed text => text.toList
  | .slot slot => value slot

/-- The text of a template with a text for each slot. -/
def fill (value : Slot → List Char) (parts : List Part) : List Char :=
  parts.flatMap (fillPart value)

/-- Where a reader stands after the fixed parts of a template, if each slot on the way stands where text is read. -/
def through (place : Place) : List Part → Option Place
  | [] => some place
  | .fixed text :: rest => through (place.after text.toList) rest
  | .slot _ :: rest => if place.isOpen then through place rest else none

section Fill

variable {figures : List Figure} {f : Figure} {position : Nat}

/-- A part of the template as a piece of the page. -/
def piece (figures : List Figure) : Part → Piece
  | .fixed text => .markup text
  | .slot slot => .value (slot.shown figures)

lemma render_comp_piece : Piece.render ∘ piece figures = fillPart fun slot => escape (slot.shown figures) := by
  funext part
  cases part <;> rfl

lemma labelPieces_eq (here : figures[position]? = some f) :
    labelPieces f = (label position f.hasLabel).map (piece figures) := by
  rw [labelPieces, label]
  split
  · simp [piece, Slot.shown, Field.shown, text, here]
  · rfl

lemma card_eq (here : figures[position]? = some f) :
    Html.card f = (card position f.hasLabel).map (piece figures) := by
  rw [Html.card, card, List.map_append, List.map_append, ← labelPieces_eq here]
  simp [piece, Slot.shown, Field.shown, text, number, here]

/-- The cards of the last figures are the last cards of the template. -/
lemma flatMap_card_eq (front rest : List Figure) :
    rest.flatMap Html.card = (cards front.length (rest.map Figure.hasLabel)).map (piece (front ++ rest)) := by
  induction rest generalizing front with
  | nil => rfl
  | cons f rest ih =>
    have here : (front ++ f :: rest)[front.length]? = some f := by simp
    have later := ih (front ++ [f])
    rw [List.append_assoc, List.length_append] at later
    rw [List.flatMap_cons, List.map_cons, cards, List.map_append, later, card_eq here]
    rfl

lemma gallery_eq : Html.gallery figures = (gallery (figures.map Figure.hasLabel)).map (piece figures) := by
  rw [Html.gallery, gallery, List.isEmpty_map]
  split
  · rfl
  · rw [flatMap_card_eq [] figures, List.map_append, List.map_append]
    rfl

/-- The pieces of the page are the parts of the template. -/
lemma pieces_eq : pieces figures = (page (figures.map Figure.hasLabel)).map (piece figures) := by
  rw [pieces, page, gallery_eq, List.map_append, List.map_append]
  rfl

end Fill

section Markup

variable {place behind : Place} {parts rest : List Part} {value : Slot → List Char}

lemma through_append (first : through place parts = some behind) :
    through place (parts ++ rest) = through behind rest := by
  induction parts generalizing place with
  | nil => rw [Option.some.inj first, List.nil_append]
  | cons part parts ih =>
    cases part with
    | fixed text => exact ih first
    | slot slot =>
      rw [through] at first
      split at first
      · rename_i opened
        rw [List.cons_append, through, if_pos opened, ih first]
      · cases first

/-- Texts without active characters add nothing to the markup of a template whose slots stand where text is read. -/
lemma markup_fill (fits : through place parts = some behind) (inert : ∀ slot, ∀ c ∈ value slot, isActive c = false) :
    place.markup (fill value parts) = place.markup (fill (fun _ => []) parts) := by
  induction parts generalizing place with
  | nil => rfl
  | cons part parts ih =>
    rw [fill, fill, List.flatMap_cons, List.flatMap_cons, ← fill, ← fill, Place.markup_append, Place.markup_append]
    cases part with
    | fixed text =>
      rw [through] at fits
      simp only [fillPart]
      rw [ih fits]
    | slot slot =>
      rw [through] at fits
      split at fits
      · rename_i opened
        obtain ⟨none, stays⟩ := Place.markup_eq_nil opened (inert slot)
        simp only [fillPart, none, stays, List.nil_append]
        rw [Place.markup, List.nil_append, ih fits]
        rfl
      · cases fits

lemma through_card (position : Nat) (labelled : Bool) : through .content (card position labelled) = some .content := by
  cases labelled <;> cbv

lemma through_cards (position : Nat) (labelled : List Bool) :
    through .content (cards position labelled) = some .content := by
  induction labelled generalizing position with
  | nil => rfl
  | cons first labelled ih => rw [cards, through_append (through_card position first), ih]

lemma through_gallery (labelled : List Bool) : through .content (gallery labelled) = some .content := by
  rw [gallery]
  split
  · rfl
  · have start : through .content [.fixed "\n<div class=\"gallery\">"] = some .content := rfl
    rw [List.append_assoc, through_append start, through_append (through_cards 0 labelled)]
    rfl

set_option maxRecDepth 20000 in
/-- The start of the page ends between tags. -/
lemma after_pageStart : Place.content.after pageStart.toList = .content :=
  (Place.after_toList rfl).trans (by decide +kernel)

/-- Every slot of the template stands between tags or in a quoted value. -/
lemma through_page (labelled : List Bool) : through .content (page labelled) = some .content := by
  have start : through .content [.fixed pageStart, .slot .count, .fixed ")</h1>\n"] = some .content := by
    rw [through, after_pageStart]
    rfl
  rw [page, List.append_assoc, through_append start, through_append (through_gallery labelled)]
  rfl

end Markup

end Template

/-- The page of some figures is the template for their number and for which of them have labels, with a text in each slot
that holds no active character and shows the value itself once its references are undone. All its markup is that of the
template, so figures with labels at the same positions give pages with the same markup. -/
theorem page_eq_fill_template (figures : List Figure) :
    let labelled := figures.map Figure.hasLabel
    (page figures).toList = Template.fill (fun slot => escape (slot.shown figures)) (Template.page labelled) ∧
      (∀ slot : Slot, (∀ c ∈ escape (slot.shown figures), isActive c = false) ∧
        unescape (escape (slot.shown figures)) = slot.shown figures) ∧
      skeleton (page figures).toList = skeleton (Template.fill (fun _ => []) (Template.page labelled)) ∧
      ∀ others : List Figure, others.map Figure.hasLabel = labelled →
        skeleton (page others).toList = skeleton (page figures).toList := by
  intro labelled
  have filled (figures : List Figure) : (page figures).toList =
      Template.fill (fun slot => escape (slot.shown figures)) (Template.page (figures.map Figure.hasLabel)) := by
    rw [page, String.toList_ofList, Template.pieces_eq, List.flatMap_map, ← Function.comp_def, Template.render_comp_piece,
      Template.fill]
  have same (figures : List Figure) : skeleton (page figures).toList =
      skeleton (Template.fill (fun _ => []) (Template.page (figures.map Figure.hasLabel))) := by
    rw [filled]
    exact Template.markup_fill (Template.through_page _) fun _ _ mem => not_isActive_of_mem_escape mem
  refine ⟨filled figures, fun slot => ⟨fun c mem => not_isActive_of_mem_escape mem, unescape_escape _⟩, same figures, ?_⟩
  intro others alike
  rw [same, same, alike]

/-- A caption and a path that are written like markup give the same markup as plain ones. -/
theorem page_eq_fill_template_active :
    let plain : Figure := ⟨"p.png", ⟨"/w/p.png"⟩, "A plot", 3, "main.typ", ⟨"/w/main.typ"⟩, "<fig:p>", 1⟩
    let active : Figure := ⟨"p.png", ⟨"p'.png"⟩, "</p><script>&lt;", 7, "m.typ", ⟨"/w/\" onclick=\"/m.typ"⟩, "<a>", 1⟩
    [active].map Figure.hasLabel = [plain].map Figure.hasLabel ∧
      skeleton (page [active]).toList = skeleton (page [plain]).toList ∧
      unescape (escape ((Slot.field 0 .caption).shown [active])) = "</p><script>&lt;".toList := by
  intro plain active
  have alike : [active].map Figure.hasLabel = [plain].map Figure.hasLabel := by decide
  obtain ⟨_, shown, _, _⟩ := page_eq_fill_template [active]
  exact ⟨alike, (page_eq_fill_template [plain]).2.2.2 [active] alike, (shown (.field 0 .caption)).2⟩

end FigureGallery.Html
