import FigureGallery.Path.Normal
import FigureGallery.Text.Decoding
import FigureGallery.Text.Hexadecimal

/-!
# URIs

URIs with a scheme, and the paths of files that they name. Paths of files are written with every byte escaped besides
letters, digits, slashes and `-`, `.`, `_`, `~`.
-/

namespace FigureGallery

/-- A URI, as it is written. -/
structure Uri where
  text : String
  /-- The path of the URI, as it is written. -/
  path : List Char
deriving DecidableEq

namespace Uri

/-- Whether a character is a letter or a digit of ASCII, or `-`, `.`, `_` or `~`. -/
def isUnreserved (c : Char) : Bool :=
  c.isAlphanum || c == '-' || c == '.' || c == '_' || c == '~'

/-- The bytes of a text with escapes. -/
def decode : List Char → List UInt8
  | [] => []
  | '%' :: a :: b :: cs => match Text.hexValue? a, Text.hexValue? b with
    | some high, some low => UInt8.ofNat (16 * high + low) :: decode cs
    | _, _ => (String.ofList ['%', a, b]).toUTF8.toList ++ decode cs
  | c :: cs => (String.singleton c).toUTF8.toList ++ decode cs

/-- The path that a URI names, in normal form; none when the URI has no path. The scheme is not looked at. Bytes that
are no text become replacement characters. -/
def toPath? (uri : Uri) : Option Path :=
  let decoded := Text.decodeLossy (decode uri.path)
  if decoded.isEmpty then none else some (Path.mk (String.ofList decoded)).normalize

/-- The escape of a byte. -/
def escapeByte (b : UInt8) : List Char :=
  ['%', Text.upperHexDigit (b.toNat / 16), Text.upperHexDigit (b.toNat % 16)]

/-- A text with every byte escaped whose character is not one of those to keep. -/
def encode (keeps : Char → Bool) (text : String) : List Char :=
  text.toUTF8.toList.flatMap fun b =>
    if b < 0x80 && keeps (Char.ofNat b.toNat) then [Char.ofNat b.toNat] else escapeByte b

/-- The URI of a file with an absolute path. -/
def ofPath (p : Path) : Uri :=
  let path := encode (fun c => isUnreserved c || c == '/') p.text
  ⟨"file://" ++ String.ofList path, path⟩

end Uri

end FigureGallery
