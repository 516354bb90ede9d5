import FigureGallery.Text.Hexadecimal
import FigureGallery.Uri.Basic

/-!
# Addresses in URIs

The addresses that stand in brackets in a URI: eight groups of up to four hexadecimal digits with colons between them,
some of which two colons may stand for and the last two of which may be written as four octets; or an address of a later
version. An address is read from the start of a text as far as it goes.
-/

namespace FigureGallery.Uri

/-- Whether a character is one of the sub-delimiters. -/
def isSubDelimiter (c : Char) : Bool :=
  "!$&'()*+,;=".toList.contains c

namespace Address

/-- A part of an address. -/
inductive Piece where
  /-- A group of digits, perhaps after a colon. -/
  | group (hasColon : Bool)
  /-- Two colons, which stand for groups of zeros. -/
  | gap
  /-- The start of four octets, perhaps after a colon. -/
  | octets (hasColon : Bool)
  /-- A colon with nothing that may follow it. -/
  | loneColon

/-- The piece that a text starts with after a colon, if it has one, and what follows it. Octets are left to be read. A
group of fewer than four digits needs something behind it. -/
def pieceAfter (hasColon : Bool) (text : List Char) : Option Piece × List Char :=
  let digits := (text.takeWhile Text.isHexDigit).take 4
  let rest := text.drop digits.length
  if digits.isEmpty then
    match hasColon, text with
    | true, ':' :: rest => (some .gap, rest)
    | true, _ :: _ => (some .loneColon, text)
    | _, _ => (none, text)
  else if digits.length < 4 then
    match rest with
    | [] => (none, [])
    | '.' :: _ => (some (.octets hasColon), text)
    | rest => (some (.group hasColon), rest)
  else (some (.group hasColon), rest)

/-- The piece that a text starts with, and what follows it. -/
def piece : List Char → Option Piece × List Char
  | ':' :: rest => pieceAfter true rest
  | text => pieceAfter false text

/-- Reads a number from 0 to 255 without leading zeros. -/
def octet? : List Char → Option (List Char)
  | '0' :: rest => some rest
  | text =>
    let digits := (text.takeWhile Char.isDigit).take 3
    let number := digits.foldl (fun n c => 10 * n + (c.toNat - '0'.toNat)) 0
    if digits.isEmpty || 255 < number then none else some (text.drop digits.length)

/-- Reads so many octets, each behind a point. -/
def pointedOctets? : (number : Nat) → List Char → Option (List Char)
  | 0, text => some text
  | number + 1, '.' :: rest => (octet? rest).bind (pointedOctets? number)
  | _ + 1, _ => none

/-- Reads four octets with points between them. -/
def octets? (text : List Char) : Option (List Char) :=
  (octet? text).bind (pointedOctets? 3)

/-- The groups of an address. -/
structure Groups where
  count : Nat
  /-- How many groups stand before the gap. -/
  gap : Option Nat

/-- Whether the next group needs no colon: it is the first, or stands right behind the gap. -/
def Groups.isAtStart (g : Groups) : Bool :=
  g.count == 0 || g.gap == some g.count

/-- Whether there are eight groups, or fewer and a gap. -/
def Groups.isComplete (g : Groups) : Bool :=
  if g.gap.isSome then g.count < 8 else g.count == 8

/-- Reads groups after those of `g`, in at most `fuel` steps, and gives all of them with what follows. -/
def groups? : (fuel : Nat) → Groups → List Char → Option (Groups × List Char)
  | 0, _, _ => none
  | fuel + 1, g, text =>
    if 8 ≤ g.count then some (g, text)
    else match piece text with
      | (some (.group hasColon), rest) =>
        if hasColon == g.isAtStart then none else groups? fuel ⟨g.count + 1, g.gap⟩ rest
      | (some .gap, rest) => if g.gap.isSome then none else groups? fuel ⟨g.count, some g.count⟩ rest
      | (some (.octets hasColon), rest) =>
        if 6 < g.count || hasColon == (g.gap == some g.count) then none
        else (octets? rest).map fun rest => (⟨g.count + 2, g.gap⟩, rest)
      | (some .loneColon, _) => none
      | (none, rest) => some (g, rest)

/-- Reads an address of eight groups. Every step reads a group or the gap. -/
def version6? (text : List Char) : Option (List Char) :=
  (groups? 10 ⟨0, none⟩ text).bind fun (g, rest) => if g.isComplete then some rest else none

/-- Whether no part of an address of groups stands at the start of a text. -/
def isForeign (text : List Char) : Bool :=
  (piece text).2.length == text.length

/-- Reads an address of a later version; or says from where on it cannot be read. -/
def future : List Char → Except (List Char) (List Char)
  | [] => .error []
  | v :: rest =>
    if v == 'v' || v == 'V' then
      let isPart (c : Char) : Bool := isUnreserved c || isSubDelimiter c || c == ':'
      match rest.takeWhile Text.isHexDigit, rest.dropWhile Text.isHexDigit with
      | _ :: _, '.' :: later =>
        if later.head?.any isPart then .ok (later.dropWhile isPart) else .error later
      | _, later => .error later
    else .error (v :: rest)

end Address

end FigureGallery.Uri
