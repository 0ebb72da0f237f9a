import Questionnaire.Number.Binary64
import Questionnaire.Table

/-! # JSON values

A `Json` keeps the entries of an object in the order in which they were written; `Json.sorted`
puts them into key order at every level, the last of equal keys counting. Integers of 64 bits
stay exact, every other number is a `Binary64`. -/

namespace Questionnaire

/-- A number of a JSON text. -/
inductive JsonNumber where
  /-- A 64-bit natural. -/
  | natural (n : Nat)
  /-- The integer `-n`, with `n` between one and `2 ^ 63`. -/
  | negative (n : Nat)
  | double (x : Binary64)
  deriving DecidableEq, Repr, Inhabited

/-- A JSON value. -/
inductive Json where
  | null
  | bool (value : Bool)
  | number (value : JsonNumber)
  | string (value : String)
  | array (items : List Json)
  | object (entries : List (String × Json))
  deriving Repr, Inhabited

namespace Json

/-- A natural number as JSON. -/
def ofNat (n : Nat) : Json := .number (.natural n)

/-- A list of texts as JSON. -/
def strings (values : List String) : Json := .array (values.map .string)

/-- A text, or null. -/
def ofOption : Option String → Json
  | none => .null
  | some value => .string value

/-- An object of the fields that are present. -/
def record (fields : List (String × Option Json)) : Json :=
  .object (fields.filterMap fun (name, value) => value.map (name, ·))

/-- The value of a field, if this is an object that has it. -/
def field? (name : String) : Json → Option Json
  | .object entries => entries.lookup name
  | _ => none

/-- Keys in order, the last of equal keys counting. -/
def sortEntries (entries : List (String × Json)) : List (String × Json) :=
  (Table.ofList entries).toList

mutual

/-- The value with the keys of every object in order. -/
def sorted : Json → Json
  | .null => .null
  | .bool value => .bool value
  | .number value => .number value
  | .string value => .string value
  | .array items => .array (sortedItems items)
  | .object entries => .object (sortEntries (sortedEntries entries))

/-- `sorted` on every item. -/
def sortedItems : List Json → List Json
  | [] => []
  | item :: rest => item.sorted :: sortedItems rest

/-- `sorted` on every value. -/
def sortedEntries : List (String × Json) → List (String × Json)
  | [] => []
  | (key, value) :: rest => (key, value.sorted) :: sortedEntries rest

end

end Json

end Questionnaire
