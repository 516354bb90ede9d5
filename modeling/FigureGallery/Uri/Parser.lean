import FigureGallery.Uri.Address

/-!
# Reading URIs

The grammar of RFC 3986 for URIs with a scheme. A text is read from left to right; what cannot be read is reported with
the place where reading stopped, counted in bytes.
-/

namespace FigureGallery.Uri

/-- What keeps a text from being a URI. -/
inductive Fault where
  | unexpectedCharacter
  /-- A percent sign without two hexadecimal digits. -/
  | invalidEscape
  /-- An address in brackets that is not one. -/
  | invalidAddress
deriving DecidableEq

/-- A text that is no URI: what is wrong with it and at which byte. -/
structure ParseError where
  fault : Fault
  index : Nat
deriving DecidableEq

/-- The text of a fault. -/
def Fault.text : Fault → String
  | .unexpectedCharacter => "unexpected character"
  | .invalidEscape => "invalid percent-encoded octet"
  | .invalidAddress => "invalid IPv6 address"

/-- The text of an error. -/
def ParseError.message (e : ParseError) : String :=
  e.fault.text ++ " at index " ++ toString e.index

/-- A fault, and the text from the place on where it was found. -/
structure Stop where
  fault : Fault
  rest : List Char

/-- Reading stops at a character that may not stand there, or at the end. -/
def unexpected {α : Type} (rest : List Char) : Except Stop α :=
  .error ⟨.unexpectedCharacter, rest⟩

/-- Whether a character may stand in the name of a host without an escape. -/
def isNameChar (c : Char) : Bool :=
  isUnreserved c || isSubDelimiter c

/-- Whether a character may stand in a path without an escape. -/
def isPathChar (c : Char) : Bool :=
  isNameChar c || c == ':' || c == '@' || c == '/'

/-- Whether a character may stand in a query or a fragment without an escape. -/
def isQueryChar (c : Char) : Bool :=
  isPathChar c || c == '?'

/-- Whether a character may stand in a scheme. -/
def isSchemeChar (c : Char) : Bool :=
  c.isAlphanum || c == '+' || c == '-' || c == '.'

/-- Reads allowed characters and escapes of two hexadecimal digits, as many as there are: what was read, and what
follows. -/
def encoded (allowed : Char → Bool) : List Char → Except Stop (List Char × List Char)
  | [] => .ok ([], [])
  | '%' :: a :: b :: cs =>
    if Text.isHexDigit a && Text.isHexDigit b then
      (encoded allowed cs).map fun (read, rest) => ('%' :: a :: b :: read, rest)
    else .error ⟨.invalidEscape, '%' :: a :: b :: cs⟩
  | c :: cs =>
    if c == '%' then .error ⟨.invalidEscape, c :: cs⟩
    else if allowed c then (encoded allowed cs).map fun (read, rest) => (c :: read, rest)
    else .ok ([], c :: cs)

/-- Reads an address after its opening bracket, with the closing one. -/
def literal (text : List Char) : Except Stop (List Char) := do
  let rest ← match Address.version6? text with
    | some rest => .ok rest
    | none =>
      if Address.isForeign text then (Address.future text).mapError fun rest => ⟨.unexpectedCharacter, rest⟩
      else .error ⟨.invalidAddress, text⟩
  match rest with
  | ']' :: rest => .ok rest
  | rest => unexpected rest

/-- Reads a host. -/
def host : List Char → Except Stop (List Char)
  | '[' :: rest => literal rest
  | text => (encoded isNameChar text).map (·.2)

/-- Reads a port, if there is one. -/
def port : List Char → List Char
  | ':' :: rest => rest.dropWhile Char.isDigit
  | text => text

/-- Checks the name of a host with what may be its port, in front of the rest of a text. -/
def checkedName (name rest : List Char) : Except Stop (List Char) :=
  match name.count ':' with
  | 0 => .ok rest
  | 1 => match ((name.dropWhile (· != ':')).drop 1).dropWhile Char.isDigit with
    | [] => .ok rest
    | bad => unexpected (bad ++ rest)
  | _ => unexpected (':' :: (name.reverse.takeWhile (· != ':')).reverse ++ rest)

/-- Reads an authority: a host, perhaps with a user before it and a port behind it. -/
def authority (text : List Char) : Except Stop (List Char) := do
  match ← encoded (fun c => isNameChar c || c == ':') text with
  | (_, '@' :: rest) => (host rest).map port
  | ([], '[' :: rest) => (literal rest).map port
  | (name, rest) => checkedName name rest

/-- Reads a part behind its mark, if there is one. -/
def marked (mark : Char) (text : List Char) : Except Stop (List Char) :=
  match text with
  | c :: rest => if c = mark then (encoded isQueryChar rest).map (·.2) else .ok text
  | [] => .ok []

/-- Reads what follows the path of a URI, up to the end. -/
def ending (text : List Char) : Except Stop Unit := do
  match ← marked '#' (← marked '?' text) with
  | [] => .ok ()
  | rest => unexpected rest

/-- Reads the path of a URI and what follows it. A path behind an authority starts with a slash or is empty. -/
def pathBehind (hasAuthority : Bool) (text : List Char) : Except Stop (List Char) := do
  let (path, rest) ← if hasAuthority && text.head? != some '/' then .ok ([], text) else encoded isPathChar text
  let _ ← ending rest
  .ok path

/-- The path of a URI. -/
def pathOf (text : List Char) : Except Stop (List Char) :=
  match text.takeWhile isSchemeChar, text.dropWhile isSchemeChar with
  | c :: _, ':' :: '/' :: '/' :: rest =>
    if c.isAlpha then (authority rest).bind (pathBehind true) else unexpected text
  | c :: _, ':' :: rest => if c.isAlpha then pathBehind false rest else unexpected text
  | [], ':' :: _ => unexpected text
  | _, rest => unexpected rest

/-- Reads a text as a URI. -/
def parse (text : String) : Except ParseError Uri :=
  match pathOf text.toList with
  | .ok path => .ok ⟨text, path⟩
  | .error stop => .error ⟨stop.fault, text.utf8ByteSize - (String.ofList stop.rest).utf8ByteSize⟩

/-- Reads a text as a URI, if it is one. -/
def parse? (text : String) : Option Uri :=
  (parse text).toOption

end FigureGallery.Uri
