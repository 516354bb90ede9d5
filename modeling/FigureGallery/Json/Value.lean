import FigureGallery.Number.Double

/-!
# JSON values

The data of messages. Integers are those of 64 bits, with or without a sign; any other number is a double. Objects keep
the order of their entries and may repeat a key; their canonical form does neither.
-/

namespace FigureGallery

/-- A JSON value. -/
inductive Json where
  | null
  | bool (flag : Bool)
  | integer (number : Int)
  /-- A number that is no integer of 64 bits. -/
  | real (number : Double)
  | string (text : String)
  /-- A value that is written correctly but stands for nothing: a string whose escapes form no text, an object with such
  a key, or a number that is too large. -/
  | valueless
  | array (items : List Json)
  | object (entries : List (String × Json))
deriving Inhabited

namespace Json

/-- A natural number as a value. -/
def nat (n : Nat) : Json :=
  .integer n

/-- A list of texts as a value. -/
def strings (texts : List String) : Json :=
  .array (texts.map .string)

/-- A value that may be missing. -/
def optional {α : Type} (write : α → Json) : Option α → Json
  | some a => write a
  | none => .null

/-- The text of a string. -/
def string? : Json → Option String
  | .string text => some text
  | _ => none

/-- The number of an integer that is not negative. -/
def nat? : Json → Option Nat
  | .integer n => if 0 ≤ n then some n.toNat else none
  | _ => none

/-- The value of a flag. -/
def bool? : Json → Option Bool
  | .bool b => some b
  | _ => none

/-- The items of an array. -/
def items? : Json → Option (List Json)
  | .array items => some items
  | _ => none

/-- A value that may be `null`. -/
def nullable? {α : Type} (read? : Json → Option α) : Json → Option (Option α)
  | .null => some none
  | j => (read? j).map some

/-- The value of a key of an object. -/
def get? (key : String) : Json → Option Json
  | .object entries => entries.lookup key
  | _ => none

mutual

/-- How deep arrays and objects are nested. -/
def depth : Json → Nat
  | .array items => depthOfItems items + 1
  | .object entries => depthOfEntries entries + 1
  | _ => 0

/-- How deep the deepest item is nested. -/
def depthOfItems : List Json → Nat
  | [] => 0
  | j :: js => max j.depth (depthOfItems js)

/-- How deep the deepest entry is nested. -/
def depthOfEntries : List (String × Json) → Nat
  | [] => 0
  | (_, j) :: es => max j.depth (depthOfEntries es)

end

mutual

/-- Whether every part of a value stands for something. -/
def isSound : Json → Bool
  | .valueless => false
  | .array items => itemsSound items
  | .object entries => entriesSound entries
  | _ => true

/-- Whether all items are sound. -/
def itemsSound : List Json → Bool
  | [] => true
  | j :: js => j.isSound && itemsSound js

/-- Whether all entries are sound. -/
def entriesSound : List (String × Json) → Bool
  | [] => true
  | (_, j) :: es => j.isSound && entriesSound es

end

/-- The entries of an object with one added by the order of keys, in place of one with the same key. -/
def insertEntry (key : String) (j : Json) : List (String × Json) → List (String × Json)
  | [] => [(key, j)]
  | (k, other) :: es =>
    if key < k then (key, j) :: (k, other) :: es
    else if key = k then (key, j) :: es
    else (k, other) :: insertEntry key j es

mutual

/-- A value whose objects hold their entries by the order of keys, each key once: the last of its entries counts. -/
def canonical : Json → Json
  | .array items => .array (canonicalItems items)
  | .object entries => .object (canonicalEntries [] entries)
  | j => j

/-- The canonical forms of items. -/
def canonicalItems : List Json → List Json
  | [] => []
  | j :: js => j.canonical :: canonicalItems js

/-- Canonical entries with others added to them one after another. -/
def canonicalEntries (read : List (String × Json)) : List (String × Json) → List (String × Json)
  | [] => read
  | (key, j) :: es => canonicalEntries (insertEntry key j.canonical read) es

end

end Json

end FigureGallery
