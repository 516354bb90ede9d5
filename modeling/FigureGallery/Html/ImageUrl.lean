import FigureGallery.Uri.Basic

/-!
# URLs of images

The URL that a page shows an image by. An absolute path becomes a `file` URL in which every byte is escaped that may not
stand in a segment; a relative one stays a relative reference with slashes between its parts.
-/

namespace FigureGallery.Html

/-- Whether a character may stand in a segment of a URL path without an escape. -/
def isSegmentChar (c : Char) : Bool :=
  0x20 < c.toNat && c.toNat < 0x7F && !("\"<>\x60#?\x7b\x7d/%\\".toList.contains c)

/-- A step of a path with a slash before it. -/
def segmentOf (step : Path.Component) : List Char :=
  match step with
  | .root => []
  | .here => '/' :: Uri.encode isSegmentChar "."
  | .up => '/' :: Uri.encode isSegmentChar ".."
  | .name text => '/' :: Uri.encode isSegmentChar text

/-- The URL of an image. -/
def imageUrl (p : Path) : List Char :=
  if p.isAbsolute then
    match p.components.drop 1 with
    | [] => "file:///".toList
    | steps => "file://".toList ++ steps.flatMap segmentOf
  else p.text.toList.map fun c => if c = '\\' then '/' else c

end FigureGallery.Html
