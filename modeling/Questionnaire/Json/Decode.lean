import Questionnaire.Address
import Questionnaire.Json.Printer
import Questionnaire.Json.Reader
import Questionnaire.Text.Literal

/-! # Decoding JSON into types

A `Decoder α` makes an `α` of a tree or says why it cannot. The combinators here visit a tree in
the order in which its text would be read, so of several things wrong with an input the first one
is reported: `record` reads a type with named fields, whether written as an object or as a bare
list of the fields' values, `list`, `optional` and `table` the containers, `variant` the names of
an enumeration, and `anyOf` the types that are told apart by shape alone.

The key of a group or of an answer is written as a text, also where it names the entry of an object
(`GroupKey.ofName`, `FieldKey.ofName`). -/

namespace Questionnaire

/-- What stands where something else is expected. -/
inductive Found where
  | null
  | bool (value : Bool)
  | number (value : JsonNumber)
  | string (value : String)
  | sequence
  | map
  deriving DecidableEq, Repr

/-- How what was found is named in reports. -/
def Found.describe : Found → String
  | .null => "null"
  | .bool value => s!"boolean `{value}`"
  | .number value => match value with
    | .double x => "floating point `" ++ .ofList x.jsonText ++ "`"
    | n => "integer `" ++ .ofList (Json.numberText n) ++ "`"
  | .string value => "string " ++ Text.literal value
  | .sequence => "sequence"
  | .map => "map"

/-- Why a tree is no value of the wanted type. -/
inductive DecodeError where
  | fault (fault : Fault)
  | invalidType (found : Found) (expected : String)
  | invalidValue (found : Found) (expected : String)
  | invalidLength (length : Nat) (expected : String)
  | missingField (name : String)
  | duplicateField (name : String)
  | unknownVariant (name : String) (known : List String)
  /-- None of the shapes of the named type fits. -/
  | noShape (type : String)
  /-- An option with neither a value nor a label. -/
  | emptyOption
  | key (error : KeyError)
  deriving DecidableEq, Repr

/-- The known variants, as a report lists them. -/
def knownVariants (known : List String) : String :=
  let quoted := known.map fun name => "`" ++ name ++ "`"
  match quoted with
  | [only] => only
  | [first, second] => first ++ " or " ++ second
  | _ => "one of " ++ ", ".intercalate quoted

/-- What is reported about a tree that is no value of the wanted type. -/
def DecodeError.message : DecodeError → String
  | .fault breach => breach.message
  | .invalidType found expected => "invalid type: " ++ found.describe ++ ", expected " ++ expected
  | .invalidValue found expected =>
    "invalid value: " ++ found.describe ++ ", expected " ++ expected
  | .invalidLength length expected => s!"invalid length {length}, expected {expected}"
  | .missingField name => s!"missing field `{name}`"
  | .duplicateField name => s!"duplicate field `{name}`"
  | .unknownVariant name known =>
    s!"unknown variant `{name}`, expected " ++ knownVariants known
  | .noShape type => s!"data did not match any variant of untagged enum {type}"
  | .emptyOption => "option requires a value or a label"
  | .key error => error.message

/-- Where a tree comes from: a text that is being read, or a value that is at hand. -/
inductive Origin where
  | text
  | value
  deriving DecidableEq, Repr

/-- Makes a value of a tree, or says why it cannot. -/
abbrev Decoder (α : Type) := Origin → Node → Except DecodeError α

namespace Node

/-- What stands at a node, unless it cannot be read. -/
def found : Node → Except DecodeError Found
  | .null => .ok .null
  | .bool value => .ok (.bool value)
  | .number value => .ok (.number value)
  | .string value => .ok (.string value)
  | .array _ _ => .ok .sequence
  | .object _ _ => .ok .map
  | .buried value => value.found
  | .badLiteral fault _ => .error (.fault fault)
  | .unreadable fault _ => .error (.fault fault)

/-- The report that something else is expected at a node. -/
def mismatch {α : Type} (node : Node) (expected : String) : Except DecodeError α := do
  throw (.invalidType (← node.found) expected)

/-- The fault of an optional fault, as a decoder reports it. -/
def raise : Option Fault → Except DecodeError Unit
  | none => .ok ()
  | some fault => .error (.fault fault)

end Node

namespace Ending

/-- Raises the fault for a reader who wants another item. -/
def checkRead : Ending → Except DecodeError Unit
  | .closed => .ok ()
  | .broken fault _ _ => .error (.fault fault)

/-- Raises the fault for a reader who wants the closing bracket. -/
def checkFinish : Ending → Except DecodeError Unit
  | .closed => .ok ()
  | .broken _ fault _ => .error (.fault fault)

end Ending

namespace Decoder

variable {α β κ υ σ : Type}

/-- Applies a function to what is decoded. -/
def map (f : α → β) (decode : Decoder α) : Decoder β := fun origin node =>
  (decode origin node).map f

/-- Decodes a text. -/
def string : Decoder String := fun _ node =>
  match node with
  | .string value => .ok value
  | node => node.mismatch "a string"

/-- Decodes a truth value. -/
def bool : Decoder Bool := fun _ node =>
  match node with
  | .bool value => .ok value
  | node => node.mismatch "a boolean"

/-- Decodes a natural number below a limit; `type` names such numbers in reports. -/
def nat (limit : Nat) (type : String) : Decoder Nat := fun _ node =>
  match node with
  | .number (.natural n) =>
    if n < limit then .ok n else .error (.invalidValue (.number (.natural n)) type)
  | .number (.negative n) => .error (.invalidValue (.number (.negative n)) type)
  | node => node.mismatch type

/-- Decodes a count or length, a 64-bit natural. -/
def size : Decoder Nat := nat wordLimit "usize"

/-- Decodes a number of any kind as the nearest binary64 number. -/
def double : Decoder Binary64 := fun _ node =>
  match node with
  | .number (.natural n) => .ok (.ofNat n)
  | .number (.negative n) => .ok (Binary64.ofNat n).neg
  | .number (.double x) => .ok x
  | node => node.mismatch "f64"

/-- Decodes null as an absent value. -/
def optional (decode : Decoder α) : Decoder (Option α) := fun origin node =>
  match node with
  | .null => .ok none
  | node => (decode origin node).map some

/-- Decodes a list. -/
def list (decode : Decoder α) : Decoder (List α) := fun origin node =>
  match node with
  | .array items ending => do
    let values ← items.mapM (decode origin)
    ending.checkRead
    return values
  | .buried (.array _ _) => .error (.fault .tooDeep)
  | node => node.mismatch "a sequence"

/-- Decodes the entries of an object, each key before its value. -/
def entries (key : String → Except DecodeError κ) (decode : Decoder υ) (origin : Origin) :
    List (Name × Node) → Except DecodeError (List (κ × υ))
  | [] => .ok []
  | (.faulty fault _, _) :: _ => .error (.fault fault)
  | (.text name, node) :: rest => do
    let k ← key name
    let value ← decode origin node
    return (k, value) :: (← entries key decode origin rest)

/-- Decodes an object as a table; of entries with one key the last counts. -/
def table [Ord κ] [Std.TransOrd κ] [Std.LawfulEqOrd κ] (key : String → Except DecodeError κ)
    (decode : Decoder υ) : Decoder (Table κ υ) := fun origin node =>
  match node with
  | .object items ending => do
    let values ← entries key decode origin items
    ending.checkRead
    return .ofList values
  | .buried (.object _ _) => .error (.fault .tooDeep)
  | node => node.mismatch "a map"

/-! ### Records -/

/-- A named field of a record that is being filled in. -/
structure Field (σ : Type) where
  name : String
  /-- Other names for the same field. -/
  aliases : List String
  /-- Whether a record without the field is refused. -/
  required : Bool
  /-- Reads the field's value as a change to the record. -/
  decode : Decoder (σ → σ)

/-- A field that may be left out. -/
def field (name : String) (decode : Decoder α) (set : α → σ → σ) : Field σ :=
  ⟨name, [], false, decode.map set⟩

/-- Whether a key names the field. -/
def Field.answersTo (f : Field σ) (key : String) : Bool := f.name == key || f.aliases.contains key

/-- Fills a record from the entries of an object; the names in `seen` are taken. Unknown entries are
passed over. -/
def fillNamed (fields : List (Field σ)) (origin : Origin) (seen : List String) (record : σ) :
    List (Name × Node) → Except DecodeError (List String × σ)
  | [] => .ok (seen, record)
  | (.faulty fault _, _) :: _ => .error (.fault fault)
  | (.text key, node) :: rest =>
    match fields.find? (·.answersTo key) with
    | none => do
      Node.raise node.passFault?
      fillNamed fields origin seen record rest
    | some f =>
      if seen.contains f.name then .error (.duplicateField f.name)
      else do
        let change ← f.decode origin node
        fillNamed fields origin (f.name :: seen) (change record) rest

/-- The report about items beyond the last field of a record with a list of `length` items. -/
def excess (origin : Origin) (length : Nat) : DecodeError :=
  match origin with
  | .text => .fault .trailingCharacters
  | .value => .invalidLength length "fewer elements in array"

/-- Fills a record from a list of its fields' values; `length` counts all of them and `position`
those already taken. -/
def fillPositional (type : String) (origin : Origin) (length : Nat) (ending : Ending)
    (position : Nat) (record : σ) : List (Field σ) → List Node → Except DecodeError σ
  | [], [] => do
    ending.checkFinish
    return record
  | [], _ :: _ => .error (excess origin length)
  | f :: fields, [] => do
    ending.checkRead
    if f.required then throw (.invalidLength position type)
    fillPositional type origin length ending (position + 1) record fields []
  | f :: fields, node :: rest => do
    let change ← f.decode origin node
    fillPositional type origin length ending (position + 1) (change record) fields rest

/-- How a report names the number of a record's fields. -/
def elements (n : Nat) : String := if n = 1 then "1 element" else s!"{n} elements"

/-- Decodes a record whose fields start out as in `blank`. -/
def record (name : String) (fields : List (Field σ)) (blank : σ) : Decoder σ :=
  fun origin node =>
    match node with
    | .object entries ending => do
      let (seen, value) ← fillNamed fields origin [] blank entries
      ending.checkRead
      match fields.find? fun f => f.required && !seen.contains f.name with
      | some f => throw (.missingField f.name)
      | none => return value
    | .array items ending =>
      fillPositional ("struct " ++ name ++ " with " ++ elements fields.length) origin
        items.length ending 0 blank fields items
    | .buried (.array _ _) => .error (.fault .tooDeep)
    | .buried (.object _ _) => .error (.fault .tooDeep)
    | node => node.mismatch ("struct " ++ name)

/-! ### Enumerations -/

/-- The value of a variant's name. -/
def variantNamed (variants : List (String × α)) (name : String) : Except DecodeError α :=
  match variants.lookup name with
  | some value => .ok value
  | none => .error (.unknownVariant name (variants.map (·.1)))

/-- Decodes the empty content of a variant. -/
def unit : Decoder Unit := fun _ node =>
  match node with
  | .null => .ok ()
  | node => node.mismatch "unit"

/-- Decodes a variant that a text gives by its name, or by an object whose one key is the name and
whose value is null. -/
def variantOfText (variants : List (String × α)) (node : Node) : Except DecodeError α :=
  match node with
  | .string name => variantNamed variants name
  | .object [] .closed => .error (.fault .valueExpected)
  | .object [] (.broken read finish _) =>
    .error (.fault (if read = .endInObject then .endInValue else finish))
  | .object ((.faulty .keyExpected _, value) :: _) _ => value.mismatch "variant identifier"
  | .object ((.faulty fault _, _) :: _) _ => .error (.fault fault)
  | .object ((.text name, content) :: rest) ending => do
    let value ← variantNamed variants name
    unit .text content
    if !rest.isEmpty then throw (.fault .valueExpected)
    ending.checkFinish
    return value
  | .buried (.object _ _) => .error (.fault .tooDeep)
  | .unreadable fault _ => .error (.fault fault)
  | _ => .error (.fault .valueExpected)

/-- Decodes a variant that a value at hand gives in the same two ways. -/
def variantOfValue (variants : List (String × α)) (node : Node) : Except DecodeError α :=
  match node with
  | .string name => variantNamed variants name
  | .object [(.text name, content)] _ => do
    let value ← variantNamed variants name
    unit .value content
    return value
  | .object _ _ => .error (.invalidValue .map "map with a single key")
  | node => node.mismatch "string or map"

/-- Decodes one of some named variants. -/
def variant (variants : List (String × α)) : Decoder α := fun origin node =>
  match origin with
  | .text => variantOfText variants node
  | .value => variantOfValue variants node

/-! ### Types told apart by shape -/

/-- The first result that is no error. -/
def firstOk (origin : Origin) (node : Node) : List (Decoder α) → Option α
  | [] => none
  | decode :: rest =>
    match decode origin node with
    | .ok value => some value
    | .error _ => firstOk origin node rest

/-- Decodes the first of some shapes that fits; the tree is read whole before any is tried. -/
def anyOf (type : String) (shapes : List (Decoder α)) : Decoder α := fun _ node => do
  Node.raise node.readFault?
  match firstOk .value node shapes with
  | some value => return value
  | none => throw (.noShape type)

/-- Refuses a record that is written as a list. -/
def asObject (decode : Decoder α) : Decoder α := fun origin node =>
  match node with
  | .object entries ending => decode origin (.object entries ending)
  | node => node.mismatch "a map"

/-! ### Whole inputs -/

/-- Decodes a whole text; nothing but blanks may follow its value. -/
def source (decode : Decoder α) (source : Json.Source) : Except DecodeError α := do
  let value ← decode .text source.root
  if source.trailing then throw (.fault .trailingCharacters)
  return value

/-- Decodes a text. -/
def ofText (decode : Decoder α) (text : String) : Except DecodeError α :=
  decode.source (Json.readText text)

/-- Decodes a value at hand, whose objects are in key order. -/
def ofValue (decode : Decoder α) (value : Json) : Except DecodeError α :=
  decode .value (.ofJson value.sorted)

end Decoder

/-! ### Keys -/

namespace GroupKey

/-- The group key that a text is, for a decoder. -/
def ofName (text : String) : Except DecodeError GroupKey := (parse text).mapError .key

/-- The key as JSON. -/
def toJson (group : GroupKey) : Json := .string group.text

/-- Decodes a group key. -/
def decode : Decoder GroupKey := fun origin node => do ofName (← Decoder.string origin node)

end GroupKey

namespace FieldKey

/-- The field key that a text is, for a decoder. -/
def ofName (text : String) : Except DecodeError FieldKey := (parse text).mapError .key

/-- The key as JSON. -/
def toJson (key : FieldKey) : Json := .string key.text

/-- Decodes a field key. -/
def decode : Decoder FieldKey := fun origin node => do ofName (← Decoder.string origin node)

end FieldKey

end Questionnaire
