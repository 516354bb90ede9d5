/-!
# Decoding of UTF-8

Bytes as a text, whatever they are: every longest start of a character that is not completed becomes one replacement
character, and so does every byte that starts no character.
-/

namespace FigureGallery.Text

/-- The character that stands in for bytes that are no text. -/
def replacement : Char := '\uFFFD'

/-- Whether a byte continues a character. -/
def isContinuation (b : UInt8) : Bool :=
  0x80 ≤ b && b ≤ 0xBF

/-- Whether a byte may follow the first byte of a character: the bounds keep out overlong forms, surrogates and code
points that are too large. -/
def mayFollow (first second : UInt8) : Bool :=
  if first = 0xE0 then 0xA0 ≤ second && second ≤ 0xBF
  else if first = 0xED then 0x80 ≤ second && second ≤ 0x9F
  else if first = 0xF0 then 0x90 ≤ second && second ≤ 0xBF
  else if first = 0xF4 then 0x80 ≤ second && second ≤ 0x8F
  else isContinuation second

/-- The number of bytes of the character that a byte starts. -/
def sizeFrom (first : UInt8) : Nat :=
  if first < 0x80 then 1
  else if 0xC2 ≤ first && first ≤ 0xDF then 2
  else if 0xE0 ≤ first && first ≤ 0xEF then 3
  else if 0xF0 ≤ first && first ≤ 0xF4 then 4
  else 0

/-- The bytes after the first one of a character, as far as they are there. -/
def followers (first : UInt8) : List UInt8 → List UInt8
  | [] => []
  | b :: bs =>
    if 2 ≤ sizeFrom first && mayFollow first b then b :: (bs.takeWhile isContinuation).take (sizeFrom first - 2)
    else []

/-- The code point of a first byte and the bytes after it. -/
def codePoint (first : UInt8) (others : List UInt8) : Nat :=
  let lead := match others.length with
    | 0 => first.toNat
    | 1 => first.toNat % 32
    | 2 => first.toNat % 16
    | _ => first.toNat % 8
  others.foldl (fun n b => 64 * n + b.toNat % 64) lead

/-- The text of a list of bytes. -/
def decodeLossy : List UInt8 → List Char
  | [] => []
  | b :: bs =>
    let others := followers b bs
    (if others.length + 1 = sizeFrom b then Char.ofNat (codePoint b others) else replacement)
      :: decodeLossy (bs.drop others.length)
  termination_by bytes => bytes.length

end FigureGallery.Text
