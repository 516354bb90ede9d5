import FigureGallery.Figure.Basic
import FigureGallery.Html.Escape
import FigureGallery.Html.ImageUrl

/-!
# The gallery page

A page of its own that shows each figure as a card. What comes from a figure is escaped; all else is the same for all
figures, but for the label, which has an element only when there is one.
-/

namespace FigureGallery.Html

/-- A piece of a page. -/
inductive Piece where
  /-- Markup of the page itself. -/
  | markup (text : String)
  /-- A value of a figure, which is shown as it is. -/
  | value (text : List Char)

/-- The written form of a piece. -/
def Piece.render : Piece → List Char
  | .markup text => text.toList
  | .value text => escape text

/-- The page up to the number of figures. -/
def pageStart : String :=
  "<!DOCTYPE html>
<html lang=\"en\">
<head>
<meta charset=\"UTF-8\">
<meta name=\"viewport\" content=\"width=device-width, initial-scale=1.0\">
<title>Typst Figure Gallery</title>
<style>
body \x7b font-family: system-ui, sans-serif; padding: 20px; margin: 0; \x7d
h1 \x7b font-size: 1.2rem; border-bottom: 1px solid #ccc; padding-bottom: 10px; \x7d
.gallery \x7b display: grid; grid-template-columns: repeat(auto-fill, minmax(200px, 1fr)); gap: 16px; \x7d
.card \x7b border: 1px solid #ddd; border-radius: 6px; overflow: hidden; display: flex; flex-direction: column; \x7d
.image-container \x7b height: 150px; display: flex; align-items: center; justify-content: center; background: #f4f4f4; \x7d
.image-container img \x7b max-width: 100%; max-height: 100%; object-fit: contain; \x7d
.caption \x7b padding: 10px; font-size: 0.9em; \x7d
.figure-number \x7b font-weight: 600; margin-right: 6px; \x7d
.label-id \x7b font-family: monospace; color: #666; \x7d
.line-number \x7b display: block; font-size: 0.75em; color: #666; font-family: monospace; \x7d
.caption p \x7b margin: 4px 0 0; \x7d
</style>
</head>
<body>
<h1>Figure Gallery ("

/-- A number of a figure. -/
def number (n : Nat) : Piece :=
  .value (toString n).toList

/-- A text of a figure. -/
def text (s : String) : Piece :=
  .value s.toList

/-- The label of a card, in an element of its own when there is one. -/
def labelPieces (f : Figure) : List Piece :=
  if f.hasLabel then [.markup " <span class=\"label-id\">", text f.label, .markup "</span>"] else []

/-- The card of a figure. -/
def card (f : Figure) : List Piece :=
  [.markup "\n<div class=\"card\" data-path=\"", text f.sourcePath.text, .markup "\" data-line=\"", number f.line,
    .markup "\">\n<div class=\"image-container\"><img src=\"", .value (imageUrl f.resolvedImage),
    .markup "\" alt=\"", text f.caption,
    .markup "\"></div>\n<div class=\"caption\">\n<span class=\"figure-number\">Figure ", number f.ordinal]
  ++ labelPieces f ++
  [.markup "</span>\n<span class=\"line-number\">", text f.sourceFile, .markup ":", number f.line,
    .markup "</span>\n<p>", text f.caption, .markup "</p>\n</div>\n</div>"]

/-- The list of cards, or the note that there are none. -/
def gallery (figures : List Figure) : List Piece :=
  if figures.isEmpty then [.markup "\n<p>No figures found in this file.</p>\n"]
  else [.markup "\n<div class=\"gallery\">"] ++ figures.flatMap card ++ [.markup "\n</div>\n"]

/-- The pieces of the page that shows some figures. -/
def pieces (figures : List Figure) : List Piece :=
  [.markup pageStart, number figures.length, .markup ")</h1>\n"] ++ gallery figures ++
    [.markup "\n</body>\n</html>"]

/-- The page that shows some figures. -/
def page (figures : List Figure) : String :=
  String.ofList ((pieces figures).flatMap Piece.render)

end FigureGallery.Html
