import Questionnaire.Question.Basic

/-! # Questions in JSON

`Question.toJson` leaves out what is absent or empty, and `Question.decode` fills it in again. The
kind of answer may also be given under the key `type`. -/

namespace Questionnaire

/-- Decodes a kind of answer. -/
def AnswerType.decode : Decoder AnswerType := Decoder.variant AnswerType.names

/-- Decodes revealing values: one text or a list of texts. -/
def ShowWhen.decode : Decoder ShowWhen :=
  Decoder.anyOf "ShowWhen"
    [Decoder.string.map .one, (Decoder.list Decoder.string).map .any]

namespace ValidationSpec

/-- A number as JSON. -/
def numberJson (x : Binary64) : Json := .number (.double x)

/-- The rules as JSON. -/
def toJson (spec : ValidationSpec) : Json :=
  .record [("minLength", spec.minLength.map .ofNat), ("maxLength", spec.maxLength.map .ofNat),
    ("min", spec.min.map numberJson), ("max", spec.max.map numberJson),
    ("pattern", spec.pattern.map .string), ("errorMessage", spec.errorMessage.map .string),
    ("accept", spec.accept.map .string), ("maxSize", spec.maxSize.map numberJson)]

/-- The fields of the rules. -/
def fields : List (Decoder.Field ValidationSpec) := [
  Decoder.field "minLength" (Decoder.optional Decoder.size) fun x spec =>
    { spec with minLength := x },
  Decoder.field "maxLength" (Decoder.optional Decoder.size) fun x spec =>
    { spec with maxLength := x },
  Decoder.field "min" (Decoder.optional Decoder.double) fun x spec => { spec with min := x },
  Decoder.field "max" (Decoder.optional Decoder.double) fun x spec => { spec with max := x },
  Decoder.field "pattern" (Decoder.optional Decoder.string) fun x spec =>
    { spec with pattern := x },
  Decoder.field "errorMessage" (Decoder.optional Decoder.string) fun x spec =>
    { spec with errorMessage := x },
  Decoder.field "accept" (Decoder.optional Decoder.string) fun x spec => { spec with accept := x },
  Decoder.field "maxSize" (Decoder.optional Decoder.double) fun x spec =>
    { spec with maxSize := x }]

/-- Decodes rules. -/
def decode : Decoder ValidationSpec := Decoder.record "ValidationSpec" fields empty

end ValidationSpec

namespace Question

/-- A list as JSON, left out if it is empty. -/
def listJson {α : Type} (toJson : α → Json) (values : List α) : Option Json :=
  if values.isEmpty then none else some (.array (values.map toJson))

/-- The question as JSON; `subQuestions` is the JSON of its sub-questions. -/
def jsonWith (subQuestions : List Json) (question : Question) : Json :=
  .record [
    ("id", if question.id.isMissing then none else some (.string question.id)),
    ("text", some (.string question.text)),
    ("answerType", some (.string question.answerType.name)),
    ("required", some (.bool question.required)),
    ("options", listJson ChoiceOption.toJson question.options),
    ("validation", question.validation.map ValidationSpec.toJson),
    ("parentQuestionId", question.parent.map .string),
    ("showWhen", question.showWhen.map ShowWhen.toJson),
    ("subQuestions", if subQuestions.isEmpty then none else some (.array subQuestions)),
    ("appliesTo", listJson .string question.appliesTo)]

mutual

/-- The question as JSON. -/
def toJson : Question → Json
  | ⟨id, text, answerType, required, options, validation, parent, showWhen, subQuestions,
      appliesTo⟩ =>
    jsonWith (toJsons subQuestions)
      ⟨id, text, answerType, required, options, validation, parent, showWhen, [], appliesTo⟩

/-- Some questions as JSON. -/
def toJsons : List Question → List Json
  | [] => []
  | question :: rest => question.toJson :: toJsons rest

end

/-- The fields of a question whose sub-questions are read by the given decoder. -/
def fields (decodeSub : Decoder Question) : List (Decoder.Field Question) := [
  Decoder.field "id" Decoder.string fun x question => { question with id := x },
  { name := "text", aliases := [], required := true,
    decode := Decoder.string.map fun x question => { question with text := x } },
  { Decoder.field "answerType" AnswerType.decode fun x (question : Question) =>
      { question with answerType := x } with aliases := ["type"] },
  Decoder.field "required" Decoder.bool fun x question => { question with required := x },
  Decoder.field "options" (Decoder.list ChoiceOption.decode) fun x question =>
    { question with options := x },
  Decoder.field "validation" (Decoder.optional ValidationSpec.decode) fun x question =>
    { question with validation := x },
  Decoder.field "parentQuestionId" (Decoder.optional Decoder.string) fun x question =>
    { question with parent := x },
  Decoder.field "showWhen" (Decoder.optional ShowWhen.decode) fun x question =>
    { question with showWhen := x },
  Decoder.field "subQuestions" (Decoder.list decodeSub) fun x question =>
    { question with subQuestions := x },
  Decoder.field "appliesTo" (Decoder.list Decoder.string) fun x question =>
    { question with appliesTo := x }]

/-- Decodes a question with fewer than `levels` levels of sub-questions. -/
def decodeWithin : Nat → Decoder Question
  | 0 => fun _ _ => .error (.fault .tooDeep)
  | levels + 1 => Decoder.record "Question" (fields (decodeWithin levels)) blank

/-- Decodes a question. -/
def decode : Decoder Question := fun origin node =>
  decodeWithin (node.depth + 1) origin node

end Question

end Questionnaire
