import FigureGallery.Json.Value

/-!
# Records in JSON

How the types of messages are read from values. A record is an object with its fields in any order, each at most once,
besides fields that are passed over; or an array of its fields in order. A value with variants names its variant in
a field of the object, or in the first item of the array.
-/

namespace FigureGallery.Json

/-- Whether no known key is repeated. -/
def keysDistinct (known : List String) (entries : List (String × Json)) : Bool :=
  known.all fun key => (entries.filter fun entry => entry.1 == key).length ≤ 1

/-- The fields of a record, in the order of their names. -/
def record? (names : List String) : Json → Option (List (Option Json))
  | .object entries =>
    if keysDistinct names entries then some (names.map fun name => entries.lookup name) else none
  | .array items =>
    if items.length ≤ names.length then some (names.zipIdx.map fun (_, i) => items[i]?) else none
  | _ => none

/-- How deep the parts of a value with variants may be nested. -/
def maxDepth : Nat := 127

/-- The name of the variant of a value, and its fields. The value is looked at as a whole before its variant is known,
so all its parts have to be sound, and `outer` levels of nesting around it count too. -/
def variant? (key : String) (outer : Nat) (j : Json) : Option (String × Json) :=
  if j.isSound && j.depth + outer ≤ maxDepth then
    match j with
    | .object entries =>
      if keysDistinct [key] entries then
        match entries.lookup key with
        | some (.string name) => some (name, .object (entries.filter fun entry => entry.1 != key))
        | _ => none
      else none
    | .array (.string name :: items) => some (name, .array items)
    | _ => none
  else none

/-- The name of a choice without content: a text, or an object that gives the name an empty content. -/
def choice? : Json → Option String
  | .string name => some name
  | .object [(name, .null)] => some name
  | .object [(name, .object [])] => some name
  | _ => none

/-- The items of a list, each read in the same way. -/
def list? {α : Type} (read? : Json → Option α) : Json → Option (List α)
  | .array items => items.mapM read?
  | _ => none

end FigureGallery.Json
