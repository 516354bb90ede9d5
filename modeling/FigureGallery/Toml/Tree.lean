import FigureGallery.Toml.Value

/-!
# Tables under construction

While a document is read, a table may still be extended by a later header or key. How depends on the way it came to
be: a table that a header or a dotted key only passes through is implicit until a header names it, a table that dotted
keys made or went through grows by dotted keys and headers below it but is never named by a header, and a table in
braces never grows.
-/

namespace FigureGallery.Toml

/-- An entry of a table under construction. -/
inductive Item where
  /-- A finished value. -/
  | value (value : Value)
  /-- A table; `implicit` until a header names it, `dotted` when dotted keys made it or went through it. -/
  | table (implicit dotted : Bool) (entries : List (String × Item))
  /-- Tables with one header each, the last first. -/
  | tables (items : List (List (String × Item)))

namespace Item

/-- A table's entries. -/
abbrev Entries := List (String × Item)

/-- Replaces the entry of a key, or adds it at the end. -/
def put (key : String) (item : Item) : Entries → Entries
  | [] => [(key, item)]
  | (k, old) :: rest => if k = key then (k, item) :: rest else (k, old) :: put key item rest

/-- Opens the table that a header names. -/
def openTable (entries : Entries) : List String → Option Entries
  | [] => none
  | [key] => match entries.lookup key with
    | none => some (put key (.table false false []) entries)
    | some (.table true false inner) => some (put key (.table false false inner) entries)
    | some _ => none
  | key :: path => match entries.lookup key with
    | none => (openTable [] path).map fun inner => put key (.table true false inner) entries
    | some (.table implicit dotted inner) =>
      (openTable inner path).map fun inner => put key (.table implicit dotted inner) entries
    | some (.tables (last :: earlier)) =>
      (openTable last path).map fun last => put key (.tables (last :: earlier)) entries
    | some _ => none

/-- Opens one more table of the list that a header in double brackets names. -/
def openListed (entries : Entries) : List String → Option Entries
  | [] => none
  | [key] => match entries.lookup key with
    | none => some (put key (.tables [[]]) entries)
    | some (.tables items) => some (put key (.tables ([] :: items)) entries)
    | some _ => none
  | key :: path => match entries.lookup key with
    | none => (openListed [] path).map fun inner => put key (.table true false inner) entries
    | some (.table implicit dotted inner) =>
      (openListed inner path).map fun inner => put key (.table implicit dotted inner) entries
    | some (.tables (last :: earlier)) =>
      (openListed last path).map fun last => put key (.tables (last :: earlier)) entries
    | some _ => none

/-- Gives a key its value in a table; `passed` says whether dots lead to the table, and `dotted` whether dotted keys
made it or went through it. An implicit table that the dots lead through counts as made by them from then on. -/
def assign (entries : Entries) (passed dotted : Bool) : List String → Value → Option Entries
  | [], _ => none
  | [key], given =>
    if passed != dotted || (entries.lookup key).isSome then none else some (put key (.value given) entries)
  | key :: path, given => match entries.lookup key with
    | none => (assign [] true true path given).map fun inner => put key (.table true true inner) entries
    | some (.table true _ inner) =>
      (assign inner true true path given).map fun inner => put key (.table true true inner) entries
    | some (.tables (last :: earlier)) =>
      (assign last true false path given).map fun last => put key (.tables (last :: earlier)) entries
    | some _ => none

/-- Gives a key its value in the table that the header before it names. -/
def assignUnder (entries : Entries) : List String → List String → Value → Option Entries
  | [], key, given => assign entries false false key given
  | name :: path, key, given => match entries.lookup name with
    | some (.table implicit dotted inner) =>
      (assignUnder inner path key given).map fun inner => put name (.table implicit dotted inner) entries
    | some (.tables (last :: earlier)) =>
      (assignUnder last path key given).map fun last => put name (.tables (last :: earlier)) entries
    | _ => none

mutual

/-- The value that an item has in the end. -/
def finish : Item → Value
  | .value finished => finished
  | .table _ _ entries => .table (finishEntries entries)
  | .tables items => .array (finishTables items).reverse

/-- The values of a table's entries. -/
def finishEntries : List (String × Item) → List (String × Value)
  | [] => []
  | (key, item) :: rest => (key, item.finish) :: finishEntries rest

/-- The values of tables with one header each. -/
def finishTables : List (List (String × Item)) → List Value
  | [] => []
  | entries :: rest => .table (finishEntries entries) :: finishTables rest

end

end Item

end FigureGallery.Toml
