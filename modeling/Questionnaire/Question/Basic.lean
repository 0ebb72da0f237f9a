import Questionnaire.Json.Decode
import Questionnaire.Text.Blank

/-! # Questions

A question has an identifier, a text, a kind of answer, rules for valid answers, and possibly a
parent: a choice question whose answer decides whether this one is shown. Questions nest one level
deep, as the sub-questions of a question.

An option of a choice question has a value, which an answer holds, and a label, which is shown. A
form may give a bare label or only one of the two; either way the option has both
(`ChoiceOption.ofParts?`). -/

namespace Questionnaire

/-! ### Options -/

/-- One of the choices that a question offers. -/
structure ChoiceOption where
  value : String
  label : String
  /-- Whether choosing it asks for a free text as well. -/
  requiresInput : Bool
  /-- The kind of input for that text. -/
  inputType : Option String
  deriving DecidableEq, Inhabited

namespace ChoiceOption

/-- An option whose value is its label. -/
def plain (label : String) : ChoiceOption := ⟨label, label, false, none⟩

/-- The option with a free text of the given kind. -/
def withInput (option : ChoiceOption) (inputType : String) : ChoiceOption :=
  { option with requiresInput := true, inputType := some inputType }

/-- The option as JSON. -/
def toJson (option : ChoiceOption) : Json :=
  .record [("value", some (.string option.value)), ("label", some (.string option.label)),
    ("requiresInput", some (.bool option.requiresInput)),
    ("inputType", option.inputType.map .string)]

/-- What a form says of an option. -/
structure Parts where
  value : Option String
  label : Option String
  requiresInput : Bool
  inputType : Option String

/-- The option of some parts: one of value and label stands in for the other, and a blank input
type counts as none. -/
def ofParts? (parts : Parts) : Option ChoiceOption :=
  let inputType := parts.inputType.filter (!Text.blank ·)
  match parts.value, parts.label with
  | some value, some label => some ⟨value, label, parts.requiresInput, inputType⟩
  | some value, none => some ⟨value, value, parts.requiresInput, inputType⟩
  | none, some label => some ⟨label, label, parts.requiresInput, inputType⟩
  | none, none => none

/-- The fields of an option that is written as an object. -/
def fields : List (Decoder.Field Parts) := [
  Decoder.field "value" (Decoder.optional Decoder.string) fun x parts => { parts with value := x },
  Decoder.field "label" (Decoder.optional Decoder.string) fun x parts => { parts with label := x },
  Decoder.field "requiresInput" Decoder.bool fun x parts => { parts with requiresInput := x },
  Decoder.field "inputType" (Decoder.optional Decoder.string) fun x parts =>
    { parts with inputType := x }]

/-- The shapes of an option: a bare label, or an object of its parts. -/
def shapes : List (Decoder Parts) := [
  Decoder.string.map fun label => ⟨none, some label, false, none⟩,
  Decoder.asObject (Decoder.record "RawOption" fields ⟨none, none, false, none⟩)]

/-- Decodes an option. -/
def decode : Decoder ChoiceOption := fun origin node => do
  match ofParts? (← Decoder.anyOf "RawOption" shapes origin node) with
  | some option => return option
  | none => throw .emptyOption

end ChoiceOption

/-! ### Questions -/

/-- The name by which other questions refer to a question, wherever it stands. -/
abbrev QuestionId := String

/-- A blank identifier counts as none. -/
def QuestionId.isMissing (id : QuestionId) : Bool := Text.blank id

/-- The kind of answer that a question takes. -/
inductive AnswerType where
  | text
  | email
  | tel
  | date
  | number
  | textarea
  | dropdown
  | radio
  | checkbox
  | radioMultiPerson
  | file
  | displayText
  deriving DecidableEq, Repr, Inhabited

namespace AnswerType

/-- Every kind, with its name. -/
def names : List (String × AnswerType) := [
  ("text", .text), ("email", .email), ("tel", .tel), ("date", .date), ("number", .number),
  ("textarea", .textarea), ("dropdown", .dropdown), ("radio", .radio), ("checkbox", .checkbox),
  ("radio_multi_person", .radioMultiPerson), ("file", .file), ("display_text", .displayText)]

/-- The name of a kind. -/
def name : AnswerType → String
  | .text => "text"
  | .email => "email"
  | .tel => "tel"
  | .date => "date"
  | .number => "number"
  | .textarea => "textarea"
  | .dropdown => "dropdown"
  | .radio => "radio"
  | .checkbox => "checkbox"
  | .radioMultiPerson => "radio_multi_person"
  | .file => "file"
  | .displayText => "display_text"

/-- Whether the question takes an answer at all. -/
def isAnswerable : AnswerType → Bool
  | .displayText => false
  | _ => true

/-- Whether other questions may depend on the answer. -/
def canBeParent : AnswerType → Bool
  | .radio | .checkbox | .dropdown => true
  | _ => false

/-- Whether several options may be chosen. -/
def isMultiSelect : AnswerType → Bool
  | .checkbox => true
  | _ => false

end AnswerType

/-- The parent's answers that reveal a question. -/
inductive ShowWhen where
  | one (value : String)
  | any (values : List String)
  deriving DecidableEq

namespace ShowWhen

/-- Whether a value is one of those that reveal. -/
def contains : ShowWhen → String → Bool
  | .one value, candidate => value == candidate
  | .any values, candidate => values.contains candidate

/-- The revealing values as JSON. -/
def toJson : ShowWhen → Json
  | .one value => .string value
  | .any values => .strings values

end ShowWhen

/-- The rules that a valid answer keeps; a rule that is absent is kept by all. -/
structure ValidationSpec where
  minLength : Option Nat
  maxLength : Option Nat
  min : Option Binary64
  max : Option Binary64
  pattern : Option String
  /-- Reported in place of the broken rule's own message. -/
  errorMessage : Option String
  /-- Accepted file types, separated by commas: extensions and media types. -/
  accept : Option String
  /-- The largest file, in megabytes. -/
  maxSize : Option Binary64
  deriving DecidableEq

namespace ValidationSpec

/-- No rules. -/
def empty : ValidationSpec := ⟨none, none, none, none, none, none, none, none⟩

/-- Whether there are no rules. -/
def isEmpty (spec : ValidationSpec) : Bool := spec = empty

end ValidationSpec

/-- A question of a group, or a sub-question. -/
structure Question where
  id : QuestionId
  text : String
  answerType : AnswerType
  required : Bool
  options : List ChoiceOption
  validation : Option ValidationSpec
  parent : Option QuestionId
  showWhen : Option ShowWhen
  subQuestions : List Question
  /-- The persons that a question for several persons asks about. -/
  appliesTo : List String
  deriving Inhabited

namespace Question

/-- A question with everything left out. -/
def blank : Question := ⟨"", "", .text, false, [], none, none, none, [], []⟩

/-- Whether the question depends on another one. -/
def isConditional (question : Question) : Bool := question.parent.isSome

end Question

end Questionnaire
