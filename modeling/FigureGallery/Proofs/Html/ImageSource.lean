import FigureGallery.Html.Page
import FigureGallery.Proofs.Html.ImageUrl
import FigureGallery.Proofs.Html.Reading
import Mathlib.Data.List.Forall2

/-!
# The sources of the images of a page

Each card of a page has one image, whose source is what follows the opening of its tag up to the next quotation mark. Nothing
else of a page reads like that opening: the markup of the page does not, and escaped values hold no angle bracket. So the
sources that are read from a page are those of its figures, in their order.
-/

namespace FigureGallery.Html

open FigureGallery.Path

/-- What stands in front of the source of an image. -/
def opening : List Char :=
  ['<', 'i', 'm', 'g', ' ', 's', 'r', 'c', '=', '"']

/-- The sources of the images of a page, from an opening up to the next quotation mark each. -/
def imageSources : List Char → List (List Char)
  | [] => []
  | c :: cs => match opening.isPrefixOf? (c :: cs) with
    | some rest => rest.takeWhile (· != '"') :: imageSources cs
    | none => imageSources cs

/-- Whether no opening starts in a text, not even at its end. -/
def isQuiet : List Char → Bool
  | [] => true
  | c :: cs => !opening.isPrefixOf (c :: cs) && !(c :: cs).isPrefixOf opening && isQuiet cs

variable {cs rest : List Char}

/-- A quiet text adds no source. -/
lemma imageSources_append (quiet : isQuiet cs) (rest : List Char) : imageSources (cs ++ rest) = imageSources rest := by
  induction cs with
  | nil => rfl
  | cons c cs ih =>
    simp only [isQuiet, Bool.and_eq_true, Bool.not_eq_true', ← Bool.not_eq_true, List.isPrefixOf_iff_prefix] at quiet
    obtain ⟨⟨whole, start⟩, quiet⟩ := quiet
    have none : opening.isPrefixOf? (c :: (cs ++ rest)) = none := by
      rw [Option.eq_none_iff_forall_ne_some]
      intro behind found
      have starts : opening <+: c :: cs ++ rest := ⟨behind, List.isPrefixOf?_eq_some_iff_append_eq.mp found⟩
      exact (List.prefix_or_prefix_of_prefix starts (List.prefix_append _ _)).elim whole start
    rw [List.cons_append, imageSources, none]
    exact ih quiet

/-- Without an angle bracket a text is quiet. -/
lemma isQuiet_of_notMem (free : '<' ∉ cs) : isQuiet cs := by
  induction cs with
  | nil => rfl
  | cons c cs ih =>
    obtain ⟨other, free⟩ := List.ne_and_not_mem_of_not_mem_cons free
    have first : opening = '<' :: opening.tail := by decide
    rw [isQuiet, ih free, first]
    simp [List.isPrefixOf, other, other.symm]

/-- Behind an opening stands a source. -/
lemma imageSources_opening (behind : List Char) :
    imageSources (opening ++ behind) = behind.takeWhile (· != '"') :: imageSources behind := by
  have first : opening = '<' :: opening.tail := by decide
  have others : isQuiet opening.tail := isQuiet_of_notMem (by decide)
  rw [← imageSources_append others behind, first, List.cons_append, List.tail_cons, imageSources]
  rw [← List.cons_append, ← first, List.isPrefixOf?_eq_some_iff_append_eq.mpr rfl]

lemma isQuiet_escape (text : List Char) : isQuiet (escape text) :=
  isQuiet_of_notMem fun mem => absurd (not_isActive_of_mem_escape mem) (by decide)

/-- A source that is written as a value is read up to its end. -/
lemma imageSources_source (url behind : List Char) :
    imageSources (opening ++ (escape url ++ '"' :: behind)) = escape url :: imageSources behind := by
  have inside : ∀ c ∈ escape url, (c != '"') = true := by
    intro c mem
    refine bne_iff_ne.mpr ?_
    rintro rfl
    exact absurd (not_isActive_of_mem_escape mem) (by decide)
  have mark : imageSources ('"' :: behind) = imageSources behind := @imageSources_append ['"'] (by decide) behind
  rw [imageSources_opening, List.takeWhile_append_of_pos inside, List.takeWhile_cons_of_neg (by decide), List.append_nil,
    imageSources_append (isQuiet_escape url), mark]

/-- Pieces that are quiet add no source. -/
lemma imageSources_flatMap {pieces : List Piece} (quiet : ∀ piece ∈ pieces, isQuiet piece.render) (rest : List Char) :
    imageSources (pieces.flatMap Piece.render ++ rest) = imageSources rest := by
  induction pieces with
  | nil => rfl
  | cons piece pieces ih =>
    obtain ⟨first, quiet⟩ := List.forall_mem_cons.mp quiet
    rw [List.flatMap_cons, List.append_assoc, imageSources_append first, ih quiet]

/-- Pieces are quiet if all markup among them is. -/
lemma isQuiet_render {pieces : List Piece} (quiet : ∀ text, .markup text ∈ pieces → isQuiet text.toList) :
    ∀ piece ∈ pieces, isQuiet piece.render := by
  intro piece mem
  cases piece with
  | markup text => exact quiet text mem
  | value text => exact isQuiet_escape text

/-- The pieces of a card in front of the source of its image. -/
def beforeSource (f : Figure) : List Piece :=
  [.markup "\n<div class=\"card\" data-path=\"", text f.sourcePath.text, .markup "\" data-line=\"", number f.line,
    .markup "\">\n<div class=\"image-container\">"]

/-- The pieces of a card behind the source of its image. -/
def behindSource (f : Figure) : List Piece :=
  [.markup " alt=\"", text f.caption,
    .markup "\"></div>\n<div class=\"caption\">\n<span class=\"figure-number\">Figure ", number f.ordinal]
  ++ labelPieces f ++
  [.markup "</span>\n<span class=\"line-number\">", text f.sourceFile, .markup ":", number f.line,
    .markup "</span>\n<p>", text f.caption, .markup "</p>\n</div>\n</div>"]

lemma render_card (f : Figure) : (card f).flatMap Piece.render = (beforeSource f).flatMap Piece.render ++
    (opening ++ (escape (imageUrl f.resolvedImage) ++ '"' :: (behindSource f).flatMap Piece.render)) := by
  have image : "\">\n<div class=\"image-container\"><img src=\"".toList =
      "\">\n<div class=\"image-container\">".toList ++ opening := by decide +kernel
  have mark : "\" alt=\"".toList = '"' :: " alt=\"".toList := by decide +kernel
  simp only [card, beforeSource, behindSource, List.flatMap_append, List.flatMap_cons, List.flatMap_nil, Piece.render, image,
    mark, List.append_assoc, List.cons_append, List.nil_append, List.append_nil]

lemma isQuiet_beforeSource (f : Figure) : ∀ piece ∈ beforeSource f, isQuiet piece.render := by
  refine isQuiet_render fun s mem => ?_
  simp only [beforeSource, text, number, List.mem_cons, Piece.markup.injEq, reduceCtorEq, List.not_mem_nil, or_false,
    false_or] at mem
  obtain rfl | rfl | rfl := mem <;> decide +kernel

lemma isQuiet_behindSource (f : Figure) : ∀ piece ∈ behindSource f, isQuiet piece.render := by
  refine isQuiet_render fun s mem => ?_
  simp only [behindSource, labelPieces, text, number, List.mem_append, List.mem_cons, Piece.markup.injEq, reduceCtorEq,
    List.not_mem_nil, or_false, false_or] at mem
  obtain ((rfl | rfl) | label) | rfl | rfl | rfl | rfl := mem
  · decide +kernel
  · decide +kernel
  · split at label
    · simp only [List.mem_cons, Piece.markup.injEq, reduceCtorEq, List.not_mem_nil, or_false, false_or] at label
      obtain rfl | rfl := label <;> decide +kernel
    · simp at label
  all_goals decide +kernel

/-- A card has one source, that of the image of its figure. -/
lemma imageSources_card (f : Figure) (rest : List Char) :
    imageSources ((card f).flatMap Piece.render ++ rest) = escape (imageUrl f.resolvedImage) :: imageSources rest := by
  rw [render_card, List.append_assoc, imageSources_flatMap (isQuiet_beforeSource f), List.append_assoc, List.append_assoc,
    List.cons_append, imageSources_source, imageSources_flatMap (isQuiet_behindSource f)]

lemma imageSources_cards (figures : List Figure) (rest : List Char) :
    imageSources ((figures.flatMap card).flatMap Piece.render ++ rest) =
      (figures.map fun f => escape (imageUrl f.resolvedImage)) ++ imageSources rest := by
  induction figures with
  | nil => rfl
  | cons f figures ih =>
    rw [List.flatMap_cons, List.flatMap_append, List.append_assoc, imageSources_card, ih, List.map_cons, List.cons_append]

lemma isQuiet_toList {s : String} (e : s = String.ofList cs) (quiet : isQuiet cs) : isQuiet s.toList := by
  rwa [e, String.toList_ofList]

set_option maxRecDepth 20000 in
lemma isQuiet_pageStart : isQuiet pageStart.toList :=
  isQuiet_toList rfl (by decide +kernel)

/-- The sources that are read from a page are those of its figures. -/
lemma imageSources_toList_page (figures : List Figure) :
    imageSources (page figures).toList = figures.map fun f => escape (imageUrl f.resolvedImage) := by
  have start (rest : List Char) : imageSources (([.markup pageStart, number figures.length, .markup ")</h1>\n"] :
      List Piece).flatMap Piece.render ++ rest) = imageSources rest := by
    refine imageSources_flatMap (isQuiet_render fun s mem => ?_) rest
    simp only [number, List.mem_cons, Piece.markup.injEq, reduceCtorEq, List.not_mem_nil, or_false, false_or] at mem
    obtain rfl | rfl := mem
    · exact isQuiet_pageStart
    · decide +kernel
  have final : imageSources (([.markup "\n</body>\n</html>"] : List Piece).flatMap Piece.render) = [] := by decide +kernel
  have middle (rest : List Char) : imageSources ((gallery figures).flatMap Piece.render ++ rest) =
      (figures.map fun f => escape (imageUrl f.resolvedImage)) ++ imageSources rest := by
    have framed {s : String} (quiet : isQuiet s.toList) (rest : List Char) :
        imageSources (([.markup s] : List Piece).flatMap Piece.render ++ rest) = imageSources rest := by
      rw [List.flatMap_singleton, Piece.render, imageSources_append quiet]
    rw [gallery]
    split
    · rename_i none
      rw [List.isEmpty_iff.mp none, framed (by decide +kernel)]
      rfl
    · rw [List.flatMap_append, List.flatMap_append, List.append_assoc, List.append_assoc, framed (by decide +kernel),
        imageSources_cards, framed (by decide +kernel)]
  rw [page, String.toList_ofList, pieces, List.flatMap_append, List.flatMap_append, List.append_assoc, start, middle, final,
    List.append_nil]

/-- A page has one source for each figure, in the order of the figures. That of an absolute image is, with its references
undone, the URL of the image. So two cards of absolute images, on one page or on two, have the same source just when they
show the same image. -/
theorem imageSources_page (figures : List Figure) :
    List.Forall₂ (fun source f => f.resolvedImage.isAbsolute → IsUrlOf (unescape source) f.resolvedImage)
      (imageSources (page figures).toList) figures ∧
    ∀ (others : List Figure) (i j : Nat) (f g : Figure), figures[i]? = some f → others[j]? = some g →
      f.resolvedImage.isAbsolute → g.resolvedImage.isAbsolute →
        ((imageSources (page figures).toList)[i]? = (imageSources (page others).toList)[j]? ↔
          f.resolvedImage.same g.resolvedImage) := by
  refine ⟨?_, fun others i j f g here there absolute absolute' => ?_⟩
  · rw [imageSources_toList_page, List.forall₂_map_left_iff, List.forall₂_same]
    intro f _ absolute
    rw [unescape_escape]
    exact isUrlOf_imageUrl absolute
  · rw [imageSources_toList_page, imageSources_toList_page, List.getElem?_map, List.getElem?_map, here, there,
      Option.map_some, Option.map_some, Option.some.injEq]
    constructor
    · intro same
      have urls : imageUrl f.resolvedImage = imageUrl g.resolvedImage := by
        rw [← unescape_escape (imageUrl f.resolvedImage), same, unescape_escape]
      exact (isUrlOf_imageUrl absolute).same (urls ▸ isUrlOf_imageUrl absolute')
    · intro same
      rw [imageUrl_congr absolute same]

/-- Two cards whose images have names with characters that have a meaning in URLs and in HTML. -/
theorem imageSources_page_encoded :
    let figure (image : String) : Figure := ⟨image, ⟨image⟩, "", 1, "main.typ", ⟨"/w/main.typ"⟩, "<fig:p>", 1⟩
    let shown := [figure "/p/100% #1?.png", figure "/p/./a&b'é.png"]
    ∃ first second, imageSources (page shown).toList = [first, second] ∧
      first = "file:&#x2f;&#x2f;&#x2f;p&#x2f;100%25%20%231%3F.png".toList ∧
      IsUrlOf (unescape first) ⟨"/p/100% #1?.png"⟩ ∧ IsUrlOf (unescape second) ⟨"/p/./a&b'é.png"⟩ ∧ first ≠ second := by
  intro figure shown
  obtain ⟨urls, images⟩ := imageSources_page shown
  have sources := imageSources_toList_page shown
  rw [sources] at urls
  obtain ⟨first, rest⟩ := List.forall₂_cons.mp urls
  obtain ⟨second, _⟩ := List.forall₂_cons.mp rest
  refine ⟨_, _, sources, by decide +kernel, first (by decide +kernel), second (by decide +kernel), fun same => ?_⟩
  have alike := (images shown 0 1 _ _ rfl rfl (by decide +kernel) (by decide +kernel)).mp (by
    rw [sources]
    exact congrArg some same)
  exact absurd alike (by decide +kernel)

end FigureGallery.Html
