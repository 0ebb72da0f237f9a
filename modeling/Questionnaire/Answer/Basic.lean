import Questionnaire.Json.Decode

/-! # Answers

An answer is a text, a list of chosen values, an uploaded file known by its description, or one
choice for each of several persons. In JSON the four are told apart by shape alone: an object with
a name and a numeric size is a file, any other object of texts holds choices by person.

Answers are kept by the text of their key. Most keys are field keys or extend one (`…_sub0`,
`…_opt0`), but any text may have an answer; a key that addresses no field is never looked at. -/

namespace Questionnaire

/-- What is known of an uploaded file; its content is kept elsewhere. -/
structure FileDescriptor where
  name : String
  /-- The size in bytes, a 64-bit number. -/
  size : Nat
  mediaType : Option String
  deriving DecidableEq

/-- A single answer. -/
inductive AnswerValue where
  | text (value : String)
  | multi (values : List String)
  | file (descriptor : FileDescriptor)
  /-- One choice by person. -/
  | perPerson (choices : Table String String)
  deriving DecidableEq

namespace FileDescriptor

/-- The description as JSON; an unknown media type is left out. -/
def toJson (file : FileDescriptor) : Json :=
  .record [("name", some (.string file.name)), ("size", some (.ofNat file.size)),
    ("type", file.mediaType.map .string)]

/-- The fields of a description. -/
def fields : List (Decoder.Field FileDescriptor) := [
  { name := "name", aliases := [], required := true,
    decode := Decoder.string.map fun value file => { file with name := value } },
  { name := "size", aliases := [], required := true,
    decode := (Decoder.nat wordLimit "u64").map fun value file => { file with size := value } },
  Decoder.field "type" (Decoder.optional Decoder.string) fun value file =>
    { file with mediaType := value }]

/-- Decodes a description. -/
def decode : Decoder FileDescriptor := Decoder.record "FileDescriptor" fields ⟨"", 0, none⟩

end FileDescriptor

namespace AnswerValue

/-- Whether the answer says anything: a file always does, the others unless they are empty. -/
def isTruthy : AnswerValue → Bool
  | .text value => value != ""
  | .multi values => !values.isEmpty
  | .file _ => true
  | .perPerson choices => !choices.isEmpty

/-- The text of a text answer. -/
def asText? : AnswerValue → Option String
  | .text value => some value
  | _ => none

/-- The file of a file answer. -/
def asFile? : AnswerValue → Option FileDescriptor
  | .file descriptor => some descriptor
  | _ => none

/-- The choices by person as JSON. -/
def choicesJson (choices : Table String String) : Json :=
  .object (choices.toList.map fun (person, choice) => (person, .string choice))

/-- The answer as it is saved. -/
def toJson : AnswerValue → Json
  | .text value => .string value
  | .multi values => .strings values
  | .file descriptor => descriptor.toJson
  | .perPerson choices => choicesJson choices

/-- The answer as a submission shows it: a file by its name alone. -/
def submitted : AnswerValue → Json
  | .file descriptor => .string descriptor.name
  | answer => answer.toJson

/-- The four shapes of an answer, in the order in which they are tried. -/
def shapes : List (Decoder AnswerValue) := [
  Decoder.string.map .text,
  (Decoder.list Decoder.string).map .multi,
  FileDescriptor.decode.map .file,
  (Decoder.table .ok Decoder.string).map .perPerson]

/-- Decodes an answer. -/
def decode : Decoder AnswerValue := Decoder.anyOf "AnswerValue" shapes

end AnswerValue

/-! ### The answers of a form -/

/-- Answers by the text of their key, in the order of the keys' characters. -/
abbrev AnswerStore := Table String AnswerValue

namespace AnswerStore

/-- The answer of a field. -/
def field? (answers : AnswerStore) (key : FieldKey) : Option AnswerValue := answers.get? key.text

/-- The keys that address a field of the group, each with the field and the rest of the key. -/
def keysInGroup (answers : AnswerStore) (group : GroupKey) : List (String × FieldKey × String) :=
  answers.keys.filterMap fun key =>
    match FieldKey.split? key with
    | some (field, rest) => if group.contains field then some (key, field, rest) else none
    | none => none

/-- The answers as they are saved. -/
def toJson (answers : AnswerStore) : Json :=
  .object (answers.toList.map fun (key, answer) => (key, answer.toJson))

/-- Decodes saved answers. -/
def decode : Decoder AnswerStore := Decoder.table .ok AnswerValue.decode

end AnswerStore

end Questionnaire
