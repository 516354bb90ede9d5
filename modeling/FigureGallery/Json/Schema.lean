import FigureGallery.Json.Number
import FigureGallery.Json.Value
import FigureGallery.Number.Width
import FigureGallery.Text.Quoted
import FigureGallery.Uri.Parser

/-!
# Schemas

What a value has to be in order to be read as some type, and the first reason why it is not. The entries of an object
are looked at in the order of their keys, and fields that are missing come last.
-/

namespace FigureGallery

namespace Json

/-- The way a value is described. -/
def described : Json → String
  | .null => "null"
  | .bool flag => "boolean \x60" ++ toString flag ++ "\x60"
  | .integer n => "integer \x60" ++ toString n ++ "\x60"
  | .real x => "floating point \x60" ++ String.ofList (realText x) ++ "\x60"
  | .valueless => "nothing"
  | .string text => "string " ++ Text.quoted text
  | .array _ => "sequence"
  | .object _ => "map"

/-- Why a value is not what it has to be. -/
inductive Mismatch where
  /-- The value is of another type. -/
  | wrongType (found expected : String)
  /-- The value is of the type, but not one of those that are allowed. -/
  | wrongValue (found expected : String)
  | wrongLength (length : Nat) (expected : String)
  | missingField (name : String)
  | unknownChoice (name : String) (choices : List String)
  /-- The value fits none of the alternatives of a type. -/
  | noAlternative (type : String)
  | invalidUri (error : Uri.ParseError)
deriving DecidableEq

namespace Mismatch

/-- A name in the quotes that names have. -/
def named (name : String) : String :=
  "\x60" ++ name ++ "\x60"

/-- What is expected of a choice between names. -/
def choicesText : List String → String
  | [] => "there are no variants"
  | [a] => "expected " ++ named a
  | [a, b] => "expected " ++ named a ++ " or " ++ named b
  | names => "expected one of " ++ ", ".intercalate (names.map named)

/-- The text of a mismatch. -/
def message : Mismatch → String
  | wrongType found expected => "invalid type: " ++ found ++ ", expected " ++ expected
  | wrongValue found expected => "invalid value: " ++ found ++ ", expected " ++ expected
  | wrongLength length expected => "invalid length " ++ toString length ++ ", expected " ++ expected
  | missingField name => "missing field " ++ named name
  | unknownChoice name choices => "unknown variant " ++ named name ++ ", " ++ choicesText choices
  | noAlternative type => "data did not match any variant of untagged enum " ++ type
  | invalidUri error => error.message

end Mismatch

/-- The types of integers. -/
inductive IntegerType where
  /-- Thirty-two bits without a sign. -/
  | word
  /-- Thirty-two bits with a sign. -/
  | signedWord
  /-- Sixty-four bits without a sign. -/
  | size
deriving DecidableEq

namespace IntegerType

/-- The name of a type of integers. -/
def name : IntegerType → String
  | word => "u32"
  | signedWord => "i32"
  | size => "usize"

/-- Whether an integer is of a type. -/
def contains : IntegerType → Int → Bool
  | word, n => Width.fitsUnsigned 32 n
  | signedWord, n => Width.fitsSigned 32 n
  | size, n => Width.fitsUnsigned 64 n

end IntegerType

/-- Whether a field has to be given. -/
inductive Presence where
  | required
  /-- The field may be left out of an object, but keeps its place in an array. -/
  | optional
  /-- The field may be left out anywhere. -/
  | defaulted
deriving DecidableEq

/-- What a value has to be. -/
inductive Schema where
  | anything
  | boolean
  /-- A text, of which messages speak by this name. -/
  | text (expected : String)
  | uri
  | integer (type : IntegerType)
  /-- Any number. -/
  | number
  /-- `null`, or something else. -/
  | nullable (content : Schema)
  /-- `null`, a boolean, or something else. -/
  | flagOr (content : Schema)
  | list (item : Schema)
  /-- Two items. -/
  | pair (item : Schema)
  /-- An object with any keys of a kind. -/
  | map (key value : Schema)
  /-- One of some names. -/
  | choice (names : List String)
  /-- An object with fields besides others that are passed over, or an array of the fields in order. The fields of the
  groups belong to the same object; a record that has groups is no array. -/
  | record (name : String) (fields : List (String × Presence × Schema)) (groups : List Schema)
  /-- One of some alternatives. -/
  | oneOf (name : String) (alternatives : List Schema)
deriving Inhabited

namespace Schema

/-- The names of the fields of a record. -/
def fieldNames : Schema → List String
  | .record _ fields _ => fields.map (·.1)
  | _ => []

/-- The first of some mismatches by the names of their fields. -/
def firstByName : List (String × Mismatch) → Option (String × Mismatch)
  | [] => none
  | m :: ms => match firstByName ms with
    | none => some m
    | some n => if n.1 < m.1 then some n else some m

/-- The first field that has to be given and is not. -/
def missing? (fields : List (String × Presence × Schema)) (entries : List (String × Json)) : Option Mismatch :=
  (fields.find? fun (name, presence, _) => presence == .required && !entries.any (·.1 == name)).map fun field =>
    .missingField field.1

/-- The length of an array that has the fields of a record. -/
def lengthText (name : String) (count : Nat) : String :=
  "struct " ++ name ++ " with " ++ toString count ++ if count = 1 then " element" else " elements"

/-- An array that is too long for the fields of a record. Inside a group or an alternative, the expected length is
told. -/
def tooLong (inner : Bool) (count length : Nat) : Mismatch :=
  .wrongLength length <|
    if inner then toString count ++ (if count = 1 then " element" else " elements") ++ " in sequence"
    else "fewer elements in array"

/-- Why a number of items are no pair. -/
def pairLength? (inner : Bool) (length : Nat) : Option Mismatch :=
  if length < 2 then some (.wrongLength length "an array of length 2")
  else if length = 2 then none
  else some (tooLong inner 2 length)

/-- A value of another type than the expected one. -/
def mistyped (j : Json) (expected : String) : Mismatch :=
  .wrongType j.described expected

/-- Why a value is no integer of a type. -/
def integerMismatch? (type : IntegerType) : Json → Option Mismatch
  | .integer n => if type.contains n then none else some (.wrongValue (Json.integer n).described type.name)
  | j => some (mistyped j type.name)

/-- Why a value is no URI. -/
def uriMismatch? : Json → Option Mismatch
  | .string written => match Uri.parse written with
    | .ok _ => none
    | .error e => some (.invalidUri e)
  | j => some (mistyped j "a string")

/-- Why a value is none of some names. A name may also be the only key of an object, with nothing as its value. -/
def choiceMismatch? (names : List String) : Json → Option Mismatch
  | .string name => if names.contains name then none else some (.unknownChoice name names)
  | .object [(name, content)] =>
    if !names.contains name then some (.unknownChoice name names)
    else match content with
      | .null => none
      | j => some (mistyped j "unit")
  | .object _ => some (.wrongValue "map" "map with a single key")
  | j => some (mistyped j "string or map")

mutual

/-- Why a value is not what it has to be. The value is `inner` when it is part of a group or an alternative. -/
def mismatch? (inner : Bool) : Schema → Json → Option Mismatch
  | .anything, _ => none
  | .boolean, .bool _ => none
  | .boolean, j => some (mistyped j "a boolean")
  | .text _, .string _ => none
  | .text expected, j => some (mistyped j expected)
  | .uri, j => uriMismatch? j
  | .integer type, j => integerMismatch? type j
  | .number, .integer _ => none
  | .number, .real _ => none
  | .number, j => some (mistyped j "f32")
  | .nullable _, .null => none
  | .nullable content, j => mismatch? inner content j
  | .flagOr _, .null => none
  | .flagOr _, .bool _ => none
  | .flagOr content, j => mismatch? inner content j
  | .list item, .array items => items.findSome? fun j => mismatch? inner item j
  | .list _, j => some (mistyped j "a sequence")
  | .pair item, .array items =>
    ((items.take 2).findSome? fun j => mismatch? inner item j).or (pairLength? inner items.length)
  | .pair _, j => some (mistyped j "an array of length 2")
  | .map key value, .object entries => entries.findSome? fun (name, j) =>
      (mismatch? inner key (.string name)).or (mismatch? inner value j)
  | .map _ _, j => some (mistyped j "a map")
  | .choice names, j => choiceMismatch? names j
  | .record _ fields groups, .object entries =>
    let known := entries.filter fun entry => fields.any (·.1 == entry.1)
    let others := entries.filter fun entry => !fields.any (·.1 == entry.1)
    (((firstByName (fieldMismatches inner fields known)).map (·.2)).or (missing? fields known)).or
      (groupsMismatch? groups others)
  | .record name fields [], .array items => itemsMismatch? inner name fields.length items.length 0 fields items
  | .record name _ _, j => some (mistyped j ("struct " ++ name))
  | .oneOf name alternatives, j => if fitsAny alternatives j then none else some (.noAlternative name)

/-- The mismatches of the fields that are given, with their names. -/
def fieldMismatches (inner : Bool) : List (String × Presence × Schema) → List (String × Json) →
    List (String × Mismatch)
  | [], _ => []
  | (name, _, schema) :: fields, entries =>
    match (entries.lookup name).bind fun j => mismatch? inner schema j with
    | some m => (name, m) :: fieldMismatches inner fields entries
    | none => fieldMismatches inner fields entries

/-- Why items are not the fields of a record in order, from the field with a number on. -/
def itemsMismatch? (inner : Bool) (type : String) (count length index : Nat) :
    List (String × Presence × Schema) → List Json → Option Mismatch
  | [], [] => none
  | [], _ :: _ => some (tooLong inner count length)
  | (_, presence, _) :: fields, [] =>
    if presence = .defaulted then itemsMismatch? inner type count length (index + 1) fields []
    else some (.wrongLength index (lengthText type count))
  | (_, _, schema) :: fields, j :: items =>
    (mismatch? inner schema j).or (itemsMismatch? inner type count length (index + 1) fields items)

/-- Why the entries that are no fields of a record itself do not fit its groups. An entry belongs to the first group
that knows it. -/
def groupsMismatch? : List Schema → List (String × Json) → Option Mismatch
  | [], _ => none
  | group :: groups, entries =>
    (mismatch? true group (.object entries)).or
      (groupsMismatch? groups (entries.filter fun entry => !group.fieldNames.contains entry.1))

/-- Whether a value is what one of some schemas says. -/
def fitsAny : List Schema → Json → Bool
  | [], _ => false
  | schema :: schemas, j => (mismatch? true schema j).isNone || fitsAny schemas j

end

end Schema

end Json

end FigureGallery
