import Questionnaire.Document.Basic

/-! # Documents in JSON

`Document.toJson` writes a document as it is saved, and `Document.decode` reads it back without
checking or completing anything. -/

namespace Questionnaire

namespace Group

/-- The group as JSON. -/
def toJson (group : Group) : Json :=
  .object [("title", .string group.title), ("repeatable", .bool group.repeatable),
    ("questions", .array (group.questions.map Question.toJson))]

/-- The fields of a group. -/
def fields : List (Decoder.Field Group) := [
  Decoder.field "title" Decoder.string fun x group => { group with title := x },
  Decoder.field "repeatable" Decoder.bool fun x group => { group with repeatable := x },
  Decoder.field "questions" (Decoder.list Question.decode) fun x group =>
    { group with questions := x }]

/-- Decodes a group. -/
def decode : Decoder Group := Decoder.record "Group" fields ⟨"", false, []⟩

end Group

namespace Section

/-- The section as JSON. -/
def toJson (part : Section) : Json :=
  .object [("title", .string part.title), ("groups", .array (part.groups.map Group.toJson))]

/-- The fields of a section. -/
def fields : List (Decoder.Field Section) := [
  Decoder.field "title" Decoder.string fun x part => { part with title := x },
  Decoder.field "groups" (Decoder.list Group.decode) fun x part => { part with groups := x }]

/-- Decodes a section. -/
def decode : Decoder Section := Decoder.record "Section" fields ⟨"", []⟩

end Section

namespace Page

/-- Page numbers lie below this limit. -/
def numberLimit : Nat := 4294967296

/-- The page as JSON. -/
def toJson (page : Page) : Json :=
  .object [("title", .string page.title), ("pageNumber", .ofNat page.pageNumber),
    ("sections", .array (page.sections.map Section.toJson))]

/-- The fields of a page. -/
def fields : List (Decoder.Field Page) := [
  Decoder.field "title" Decoder.string fun x page => { page with title := x },
  Decoder.field "pageNumber" (Decoder.nat numberLimit "u32") fun x page =>
    { page with pageNumber := x },
  Decoder.field "sections" (Decoder.list Section.decode) fun x page =>
    { page with sections := x }]

/-- Decodes a page. -/
def decode : Decoder Page := Decoder.record "Page" fields ⟨"", 0, []⟩

end Page

namespace Document

/-- The document as JSON. -/
def toJson (document : Document) : Json :=
  .object [("sourceName", .string document.sourceName),
    ("pages", .array (document.pages.map Page.toJson))]

/-- The fields of a document. -/
def fields : List (Decoder.Field Document) := [
  Decoder.field "sourceName" Decoder.string fun x document => { document with sourceName := x },
  Decoder.field "pages" (Decoder.list Page.decode) fun x document => { document with pages := x }]

/-- Decodes a document as it is written. -/
def decode : Decoder Document := Decoder.record "Document" fields ⟨"", []⟩

end Document

end Questionnaire
