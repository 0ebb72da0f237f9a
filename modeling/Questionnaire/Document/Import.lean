import Questionnaire.Document.Basic
import Questionnaire.Document.Codec

/-! # Importing documents

An imported text may lack page numbers and identifiers and may name its source in several places;
`Document.normalise` completes it. Sub-questions with sub-questions of their own, and documents
with dependency issues, are refused; a page number that does not fit its word stops the program. -/

namespace Questionnaire

/-- Why a text is no form document. -/
inductive FormatError where
  | decode (error : DecodeError)
  /-- Neither pages nor a block of information about the document. -/
  | noStructure
  /-- The sub-question at a position of a question has sub-questions. -/
  | nestedSubQuestions (position : Nat) (question : QuestionId)

/-- What is reported about a text that is no form document. -/
def FormatError.message : FormatError → String
  | .decode error => error.message
  | .noStructure => "expected a 'pages' array or a 'documentInfo' block"
  | .nestedSubQuestions position question =>
    s!"sub-question {position} of '{question}' has its own sub-questions"

/-- Why a document is not imported. -/
inductive ImportError where
  | unsupportedFile (path : String)
  | tooLarge (path : String) (size limit : Nat)
  | unreadable (path : String)
  | format (error : FormatError)
  | dependency (issues : List DependencyIssue)

/-- What is reported about a document that is not imported. -/
def ImportError.message : ImportError → String
  | .unsupportedFile path => s!"'{path}' is not a JSON document"
  | .tooLarge path size limit => s!"'{path}' is {size} bytes, the limit is {limit} bytes"
  | .unreadable path => s!"failed to read '{path}'"
  | .format error => "invalid form document: " ++ error.message
  | .dependency issues =>
    "invalid question dependencies: " ++ "; ".intercalate (issues.map DependencyIssue.message)

/-- What a text says about the document beside its pages. -/
structure DocumentInfo where
  sourceName : Option String
  filename : Option String

namespace DocumentInfo

/-- The fields of the information. -/
def fields : List (Decoder.Field DocumentInfo) := [
  Decoder.field "sourceName" (Decoder.optional Decoder.string) fun x info =>
    { info with sourceName := x },
  Decoder.field "filename" (Decoder.optional Decoder.string) fun x info =>
    { info with filename := x }]

/-- Decodes the information. -/
def decode : Decoder DocumentInfo := Decoder.record "DocumentInfo" fields ⟨none, none⟩

end DocumentInfo

/-- A document as an imported text gives it. -/
structure ImportedDocument where
  sourceName : Option String
  info : Option DocumentInfo
  pages : Option (List Page)

namespace ImportedDocument

/-- The fields of an imported text. -/
def fields : List (Decoder.Field ImportedDocument) := [
  Decoder.field "sourceName" (Decoder.optional Decoder.string) fun x document =>
    { document with sourceName := x },
  Decoder.field "documentInfo" (Decoder.optional DocumentInfo.decode) fun x document =>
    { document with info := x },
  Decoder.field "pages" (Decoder.optional (Decoder.list Page.decode)) fun x document =>
    { document with pages := x }]

/-- Decodes an imported text. -/
def decode : Decoder ImportedDocument := Decoder.record "RawDocument" fields ⟨none, none, none⟩

/-- The name of the source: the document's own, or one that the information gives, unless it is
blank; else the fallback. -/
def chosenName (document : ImportedDocument) (fallback : String) : String :=
  let info := document.info.getD ⟨none, none⟩
  let given := document.sourceName <|> info.sourceName <|> info.filename
  (given.filter (!Text.blank ·)).getD fallback

end ImportedDocument

namespace Document

/-- The identifier of a question that has none: its coordinates. -/
def assignedId (coords : QuestionCoords) : QuestionId :=
  let part (n : Nat) : String := "-" ++ .ofList (Decimal.print n)
  "q" ++ part coords.pageIndex ++ part coords.sectionIndex ++ part coords.groupIndex
    ++ part coords.questionIndex

/-- The identifier of a sub-question that has none. -/
def assignedSubId (question : QuestionId) (position : Nat) : QuestionId :=
  question ++ "-sub" ++ .ofList (Decimal.print position)

/-- Completes a sub-question, which must have no sub-questions. -/
def normaliseSub (question : QuestionId) (sub : Question) (position : Nat) :
    Except FormatError Question :=
  if !sub.subQuestions.isEmpty then .error (.nestedSubQuestions position question)
  else if sub.id.isMissing then .ok { sub with id := assignedSubId question position }
  else .ok sub

/-- Completes a question and its sub-questions. -/
def normaliseQuestion (coords : QuestionCoords) (question : Question) :
    Except FormatError Question := do
  let id := if question.id.isMissing then assignedId coords else question.id
  let subs ← question.subQuestions.zipIdx.mapM fun (sub, n) => normaliseSub id sub n
  return { question with id := id, subQuestions := subs }

/-- Completes the questions of a group. -/
def normaliseGroup (key : GroupKey) (group : Group) : Except FormatError Group := do
  let questions ← group.questions.zipIdx.mapM fun (question, q) =>
    normaliseQuestion (key.question q) question
  return { group with questions }

/-- Completes the groups of a section. -/
def normaliseSection (p s : Nat) (part : Section) : Except FormatError Section := do
  let groups ← part.groups.zipIdx.mapM fun (group, g) => normaliseGroup ⟨p, s, g⟩ group
  return { part with groups }

/-- The number of the page at a position: its own unless that is zero, which stands for none, or
else the position counted from one. The number is a 32-bit word, to which the position is cut. -/
def numberAt (p : Nat) (page : Page) : Except Overflow Nat :=
  if page.pageNumber = 0 then successor Page.numberLimit (p % Page.numberLimit)
  else .ok page.pageNumber

/-- Completes a page. -/
def normalisePage (p : Nat) (page : Page) : Except (Failure FormatError) Page := do
  let pageNumber ← (numberAt p page).mapError .stopped
  let sections ← (page.sections.zipIdx.mapM fun (part, s) => normaliseSection p s part).mapError
    .refused
  return { page with pageNumber, sections }

/-- Gives page numbers and identifiers where there are none. -/
def normalise (document : Document) : Except (Failure FormatError) Document := do
  let pages ← document.pages.zipIdx.mapM fun (page, p) => normalisePage p page
  return { document with pages }

/-- Completes and checks an imported document. -/
def ofImported (imported : ImportedDocument) (fallback : String) :
    Except (Failure ImportError) Document :=
  if imported.pages.isNone && imported.info.isNone then .error (.refused (.format .noStructure))
  else
    match normalise ⟨imported.chosenName fallback, imported.pages.getD []⟩ with
    | .error failure => .error (failure.map .format)
    | .ok document =>
      match document.checkDependencies with
      | [] => .ok document
      | issues => .error (.refused (.dependency issues))

/-- Imports a text that has been read; `fallback` names a source that the text leaves open. -/
def importSource (source : Json.Source) (fallback : String) :
    Except (Failure ImportError) Document :=
  match ImportedDocument.decode.source source with
  | .error error => .error (.refused (.format (.decode error)))
  | .ok imported => ofImported imported fallback

/-- Imports the bytes of a text. -/
def importBytes (bytes : List UInt8) (fallback : String) : Except (Failure ImportError) Document :=
  importSource (Json.readBytes bytes) fallback

/-- Imports a text. -/
def importText (text : String) (fallback : String) : Except (Failure ImportError) Document :=
  importSource (Json.readText text) fallback

end Document

end Questionnaire
