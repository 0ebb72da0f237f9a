import Questionnaire.Question.Codec

/-! # The schema of form documents

`Document.schema` describes in JSON Schema the texts from which a document can be decoded: a
definition for every type of a document's parts, and the properties of the document itself. -/

namespace Questionnaire

namespace Schema

/-- A schema that names one type. -/
def ofType (name : String) (more : List (String × Json)) : Json :=
  .object (("type", .string name) :: more)

/-- A schema for values of a type or null. -/
def ofTypeOrNull (name : String) (more : List (String × Json)) : Json :=
  .object (("type", .strings [name, "null"]) :: more)

/-- A schema with an explanation. -/
def described (text : String) : Json → Json
  | .object entries => .object (("description", .string text) :: entries)
  | schema => schema

/-- A reference to a definition. -/
def ref (name : String) (more : List (String × Json)) : Json :=
  .object (("$ref", .string ("#/$defs/" ++ name)) :: more)

/-- A schema for values that fit one of some schemas. -/
def anyOf (schemas : List Json) : Json := .object [("anyOf", .array schemas)]

/-- A reference to a definition, or null. -/
def refOrNull (name : String) : Json := anyOf [ref name [], ofType "null" []]

/-- A schema for texts. -/
def text : Json := ofType "string" []

/-- A schema for lists, without more being said. -/
def listOf (items : Json) : Json := ofType "array" [("items", items)]

/-- A schema for lists that are empty if left out. -/
def listOrEmpty (items : Json) : Json := ofType "array" [("default", .array []), ("items", items)]

/-- A schema for texts that are empty if left out. -/
def textOrEmpty : Json := ofType "string" [("default", .string "")]

/-- A schema for truth values that are false if left out. -/
def boolOrFalse : Json := ofType "boolean" [("default", .bool false)]

/-- A schema for objects; properties are listed in the order of their names. -/
def record (properties : List (String × Json)) (more : List (String × Json)) : Json :=
  ofType "object" (("properties", .object properties) :: more)

/-- A schema for lengths. -/
def lengthOrNull : Json :=
  ofTypeOrNull "integer" [("format", .string "uint"), ("minimum", .ofNat 0)]

/-- A schema for bounds. -/
def boundOrNull : Json := ofTypeOrNull "number" [("format", .string "double")]

/-- A schema for texts that may be null and are so if left out. -/
def textDefaultNull : Json := ofTypeOrNull "string" [("default", .null)]

/-! ### Definitions -/

/-- The kinds of answers. -/
def answerType : Json :=
  described "Widget family of a question."
    (ofType "string" [("enum", .strings (AnswerType.names.map (·.1)))])

/-- The options of a choice question. -/
def choiceOption : Json :=
  described "Wire shape accepted from extraction output."
    (anyOf [text,
      record [("inputType", textDefaultNull), ("label", textDefaultNull),
        ("requiresInput", boolOrFalse), ("value", textDefaultNull)] []])

/-- The groups of a section. -/
def group : Json :=
  described "Unit of repetition."
    (record [("questions", listOrEmpty (ref "Question" [])), ("repeatable", boolOrFalse),
      ("title", textOrEmpty)] [])

/-- The pages of a document. -/
def page : Json :=
  record [
    ("pageNumber", ofType "integer" [("format", .string "uint32"), ("default", .ofNat 0),
      ("minimum", .ofNat 0)]),
    ("sections", listOrEmpty (ref "Section" [])), ("title", textOrEmpty)] []

/-- The questions of a group. -/
def question : Json :=
  described "A single question of a group."
    (record [
      ("answerType", ref "AnswerType" [("default", .string "text")]),
      ("appliesTo", listOf text),
      ("id", ref "QuestionId" []),
      ("options", listOf (ref "ChoiceOption" [])),
      ("parentQuestionId", refOrNull "QuestionId"),
      ("required", boolOrFalse),
      ("showWhen", refOrNull "ShowWhen"),
      ("subQuestions", listOf (ref "Question" [])),
      ("text", text),
      ("validation", refOrNull "ValidationSpec")]
      [("required", .strings ["text"])])

/-- The identifiers of questions. -/
def questionId : Json :=
  described
    ("Stable question identifier assigned when the question is created.\n\n" ++
      "Parent links use this identifier instead of positional coordinates so\n" ++
      "reordering the document never silently rewires a dependency.")
    text

/-- The sections of a page. -/
def pageSection : Json :=
  record [("groups", listOrEmpty (ref "Group" [])), ("title", textOrEmpty)] []

/-- The answers that reveal a question. -/
def showWhen : Json :=
  described "Parent answer value(s) that reveal a dependent question." (anyOf [text, listOf text])

/-- The rules of a question. -/
def validationSpec : Json :=
  described "Optional per-question validation rules."
    (record [
      ("accept", described "Comma separated extensions (`.pdf`) or mime types (`image/*`)."
        (ofTypeOrNull "string" [])),
      ("errorMessage", ofTypeOrNull "string" []),
      ("max", boundOrNull),
      ("maxLength", lengthOrNull),
      ("maxSize", described "Upper bound for uploads, in megabytes." boundOrNull),
      ("min", boundOrNull),
      ("minLength", lengthOrNull),
      ("pattern", ofTypeOrNull "string" [])] [])

end Schema

/-- The schema of the texts of documents. -/
def Document.schema : Json :=
  .object [
    ("$schema", .string "https://json-schema.org/draft/2020-12/schema"),
    ("title", .string "Document"),
    ("description", .string
      ("Full hierarchical form definition.\n\n" ++
        "Pages, sections and groups sit behind `Arc` so edits can share every\n" ++
        "subtree they do not touch with the previous version.")),
    ("type", .string "object"),
    ("properties", .object [
      ("pages", Schema.listOrEmpty (Schema.ref "Page" [])),
      ("sourceName", Schema.textOrEmpty)]),
    ("$defs", .object [
      ("AnswerType", Schema.answerType),
      ("ChoiceOption", Schema.choiceOption),
      ("Group", Schema.group),
      ("Page", Schema.page),
      ("Question", Schema.question),
      ("QuestionId", Schema.questionId),
      ("Section", Schema.pageSection),
      ("ShowWhen", Schema.showWhen),
      ("ValidationSpec", Schema.validationSpec)])]

end Questionnaire
