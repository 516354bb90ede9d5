import FigureGallery.Toml.Scalar
import FigureGallery.Toml.Tree

/-!
# TOML documents

Reads a document into a table. A document is a list of lines, each empty, a header, or a key with its value; every line
may end in a comment. A document that breaks any rule of the language has no table.
-/

namespace FigureGallery.Toml

/-- How deep arrays and tables in braces may be nested. -/
def maxDepth : Nat := 80

/-- What follows a comment that may start here, up to the end of the line. -/
def afterComment? : List Char → Option (List Char)
  | '#' :: cs =>
    let rest := cs.dropWhile isPrintable
    match rest, newline? rest with
    | [], _ => some []
    | _, some _ => some rest
    | _, none => none
  | cs => some cs

/-- What follows blanks, comments and line breaks, with at most `fuel` line breaks. -/
def skipLines? : (fuel : Nat) → List Char → Option (List Char)
  | 0, cs => some cs
  | fuel + 1, cs => (afterComment? (cs.dropWhile isSpace)).bind fun rest =>
    match newline? rest with
    | some rest => skipLines? fuel rest
    | none => some rest

/-- What follows blanks, comments and line breaks. -/
def skip? (text : List Char) : Option (List Char) :=
  skipLines? (text.length + 1) text

mutual

/-- Reads a value, with at most `fuel` steps and `depth` more levels of nesting. -/
def value? : (fuel depth : Nat) → List Char → Option (Value × List Char)
  | 0, _, _ => none
  | fuel + 1, depth, text => match text with
    | '[' :: cs => match depth with
      | 0 => none
      | depth + 1 => (items? fuel depth [] cs).map fun (items, rest) => (.array items, rest)
    | '\x7b' :: cs => match depth with
      | 0 => none
      | depth + 1 => (entries? fuel depth [] cs).map fun (entries, rest) =>
        (.table (Item.finishEntries entries), rest)
    | '"' :: _ => (string? text).map fun (content, rest) => (.string content, rest)
    | '\'' :: _ => (string? text).map fun (content, rest) => (.string content, rest)
    | _ => scalar text

/-- Reads the items of an array up to its closing bracket, after those in `read`, the last first. -/
def items? : (fuel depth : Nat) → (read : List Value) → List Char → Option (List Value × List Char)
  | 0, _, _, _ => none
  | fuel + 1, depth, read, text => (skip? text).bind fun
    | ']' :: rest => some (read.reverse, rest)
    | start => (value? fuel depth start).bind fun (value, rest) => (skip? rest).bind fun
      | ',' :: rest => items? fuel depth (value :: read) rest
      | ']' :: rest => some ((value :: read).reverse, rest)
      | _ => none

/-- Reads the entries of a table in braces up to the closing one, after those in `read`. Comments and line breaks may
stand everywhere but between the parts of a key. -/
def entries? : (fuel depth : Nat) → (read : Item.Entries) → List Char → Option (Item.Entries × List Char)
  | 0, _, _, _ => none
  | fuel + 1, depth, read, text => (skip? text).bind fun
    | '\x7d' :: rest => some (read, rest)
    | start => (key? start).bind fun (key, rest) => (skip? rest).bind fun
      | '=' :: rest => (skip? rest).bind fun start => (value? fuel depth start).bind fun (value, rest) =>
        (Item.assign read false false key value).bind fun read => (skip? rest).bind fun
          | ',' :: rest => entries? fuel depth read rest
          | '\x7d' :: rest => some (read, rest)
          | _ => none
      | _ => none

end

/-- A document that has been read in part. -/
structure Reading where
  /-- The entries of the document. -/
  entries : Item.Entries
  /-- The header that keys belong to. -/
  header : List String

/-- What follows the end of a line. -/
def endOfLine? (text : List Char) : Option (List Char) :=
  (afterComment? (text.dropWhile isSpace)).bind fun
    | [] => some []
    | rest => newline? rest

/-- Reads one line that is not empty. -/
def line? (r : Reading) (text : List Char) : Option (Reading × List Char) :=
  match text with
  | '[' :: '[' :: cs => (key? cs).bind fun
    | (path, ']' :: ']' :: rest) =>
      (Item.openListed r.entries path).map fun entries => (⟨entries, path⟩, rest)
    | _ => none
  | '[' :: cs => (key? cs).bind fun
    | (path, ']' :: rest) => (Item.openTable r.entries path).map fun entries => (⟨entries, path⟩, rest)
    | _ => none
  | cs => (key? cs).bind fun
    | (key, '=' :: rest) =>
      (value? (2 * rest.length + 2) maxDepth (rest.dropWhile isSpace)).bind fun (value, rest) =>
        (Item.assignUnder r.entries r.header key value).map fun entries => (⟨entries, r.header⟩, rest)
    | _ => none

/-- Reads the lines of a document, with at most `fuel` lines. -/
def lines? : (fuel : Nat) → Reading → List Char → Option Reading
  | 0, _, _ => none
  | fuel + 1, r, text => match skip? text with
    | none => none
    | some [] => some r
    | some start => (line? r start).bind fun (r, rest) => (endOfLine? rest).bind fun rest => lines? fuel r rest

/-- The entries of a document; a byte order mark at its start does not count. -/
def parse (text : List Char) : Option (List (String × Value)) :=
  let text := match text with
    | '\uFEFF' :: cs => cs
    | cs => cs
  (lines? (text.length + 1) ⟨[], []⟩ text).map fun r => Item.finishEntries r.entries

end FigureGallery.Toml
