import Questionnaire.Export.Body
import Questionnaire.Export.Script
import Questionnaire.Files.Basic

/-! # Exported forms

`Document.exportPage` makes a page that stands alone: the form, its style and its script in one file
(`StaticExport`), which is named after the source of the document. An `Archive` keeps exported forms
and submissions in the order in which they come; of two exports with one name the second is
refused. -/

namespace Questionnaire

namespace Export

/-- The style sheet of an exported form, line by line. -/
def styleLines : List String := [
  "body \x7b font-family: system-ui, sans-serif; margin: 0; background: #f6f7f9; color: " ++
    "#1d2329; \x7d",
  ".fc-main \x7b max-width: 48rem; margin: 0 auto; padding: 1.5rem; \x7d",
  ".fc-page \x7b background: #fff; border: 1px solid #d8dde3; border-radius: 6px; padding: " ++
    "1rem 1.25rem; margin-bottom: 1.5rem; \x7d",
  ".fc-section \x7b border: 0; padding: 0; margin: 0 0 1rem; \x7d",
  ".fc-section > legend \x7b font-weight: 600; margin-bottom: 0.5rem; \x7d",
  ".fc-group \x7b margin-bottom: 1rem; \x7d",
  ".fc-instance \x7b border-left: 3px solid #d8dde3; padding-left: 0.75rem; margin-bottom: " ++
    "0.75rem; \x7d",
  ".fc-instance-header \x7b display: flex; justify-content: space-between; align-items: " ++
    "center; \x7d",
  ".fc-question \x7b margin: 0.6rem 0; \x7d",
  ".fc-question[hidden], .fc-error[hidden], .fc-option-detail[hidden] \x7b display: none; " ++
    "\x7d",
  ".fc-label \x7b display: block; margin-bottom: 0.25rem; \x7d",
  ".fc-required \x7b color: #b42318; margin-left: 0.2rem; \x7d",
  ".fc-options label, .fc-person label \x7b margin-right: 0.75rem; \x7d",
  ".fc-subquestions \x7b margin-left: 1rem; \x7d",
  ".fc-error \x7b color: #b42318; font-size: 0.875rem; margin-top: 0.25rem; \x7d",
  "input[type=\"text\"], input[type=\"email\"], input[type=\"tel\"], input[type=\"date\"], " ++
    "input[type=\"number\"], select, textarea \x7b width: 100%; box-sizing: border-box; " ++
    "padding: 0.35rem; \x7d"]

/-- The style sheet of an exported form. -/
def style : String := "\n".intercalate styleLines ++ "\n"

end Export

/-- How a document is exported. -/
structure ExportOptions where
  fidelity : InstanceFidelity
  /-- The title of the page; the name of the source if there is none or it is blank. -/
  title : Option String
  deriving DecidableEq

namespace ExportOptions

/-- The options that hold unless others are given. -/
def standard : ExportOptions := ⟨.genericText, none⟩

/-- The fields of the options. -/
def fields : List (Decoder.Field ExportOptions) := [
  Decoder.field "fidelity" InstanceFidelity.decode fun x options =>
    { options with fidelity := x },
  Decoder.field "title" (Decoder.optional Decoder.string) fun x options =>
    { options with title := x }]

/-- Decodes options. -/
def decode : Decoder ExportOptions := Decoder.record "ExportOptions" fields standard

end ExportOptions

/-- Why a document is not exported. -/
inductive ExportError where
  | emptyDocument
  deriving DecidableEq

/-- What is reported about a document that is not exported. -/
def ExportError.message : ExportError → String
  | .emptyDocument => "document has no pages"

/-- An exported form. -/
structure StaticExport where
  fileName : String
  html : String
  deriving DecidableEq

/-! ### File names -/

/-- Whether a character may stand in the name of an exported file. -/
def isFileNameChar (c : Char) : Bool :=
  ('a' ≤ c && c ≤ 'z') || ('A' ≤ c && c ≤ 'Z') || Decimal.isDigit c || c == '_' || c == '-'

/-- A text with a hyphen for every run of characters that may not stand in a name; a run after a
hyphen is dropped. `before` is the text so far, last character first. -/
def hyphenated (before : List Char) : List Char → List Char
  | [] => before.reverse
  | c :: rest =>
    if isFileNameChar c then hyphenated (c :: before) rest
    else if before.head? = some '-' then hyphenated before rest
    else hyphenated ('-' :: before) rest

/-- A text without the hyphens at its two ends. -/
def trimHyphens (text : List Char) : List Char :=
  ((text.dropWhile (· == '-')).reverse.dropWhile (· == '-')).reverse

/-- The name of the file that a document is exported to. -/
def exportFileName (sourceName : String) : String :=
  let stem := trimHyphens (hyphenated [] ((Path.stem? sourceName).getD []))
  (if stem.isEmpty then "form" else .ofList stem) ++ "-form.html"

/-! ### Pages -/

/-- The lines of a page before its style. -/
def pageHead (title : String) : List String := [
  "<!DOCTYPE html>",
  "<html lang=\"en\">",
  "<head>",
  "<meta charset=\"utf-8\">",
  "<meta name=\"viewport\" content=\"width=device-width, initial-scale=1\">",
  "<meta name=\"generator\" content=\"form-clone\">",
  "<title>" ++ escapeHtml title ++ "</title>",
  "<style>"]

/-- The tag of the form itself. -/
def formTag (document : Document) (fidelity : InstanceFidelity) : String :=
  "<form id=\"form-clone\" class=\"fc-form\" novalidate data-source=\""
    ++ escapeHtml document.sourceName ++ "\" data-total-pages=\""
    ++ natText document.pages.length ++ "\" data-fidelity=\"" ++ fidelity.name ++ "\">"

/-- The lines between the style of a page and the form. -/
def pageTop (document : Document) (fidelity : InstanceFidelity) (title : String) : List String := [
  "</style>",
  "</head>",
  "<body>",
  "<main class=\"fc-main\">",
  "<h1 class=\"fc-title\">" ++ escapeHtml title ++ "</h1>",
  formTag document fidelity]

/-- The lines between the form and the script of a page. -/
def pageBottom : List String := [
  "<div class=\"fc-actions\">",
  "<button type=\"submit\" class=\"fc-submit\">Submit</button>",
  "</div>",
  "</form>",
  "</main>",
  "<script>"]

/-- The lines of a page after its script. -/
def pageEnd : List String := ["</script>", "</body>", "</html>"]

/-- Some lines, each with its line break. -/
def joinLines (lines : List String) : String := String.join (lines.map (· ++ "\n"))

/-- The title of the page of a document. -/
def ExportOptions.titleFor (options : ExportOptions) (document : Document) : String :=
  (options.title.filter (!Text.blank ·)).getD document.sourceName

/-- The text of the page of a document. -/
def Document.pageHtml (document : Document) (options : ExportOptions) : String :=
  let title := options.titleFor document
  joinLines (pageHead title) ++ Export.style ++ "\n"
    ++ joinLines (pageTop document options.fidelity title)
    ++ .ofList (document.renderBody options.fidelity) ++ "\n"
    ++ joinLines pageBottom ++ Export.script ++ "\n" ++ joinLines pageEnd

/-- Exports a document; one without pages cannot be exported. -/
def Document.exportPage (document : Document) (options : ExportOptions) :
    Except ExportError StaticExport :=
  if document.isUsable then
    .ok ⟨exportFileName document.sourceName, document.pageHtml options⟩
  else .error .emptyDocument

/-! ### Keeping what is produced -/

/-- Why an archive refuses an export. -/
inductive ArchiveError where
  | alreadyExists (name : String)
  deriving DecidableEq

/-- What is reported about an export that is refused. -/
def ArchiveError.message : ArchiveError → String
  | .alreadyExists name => s!"'{name}' already exists"

/-- Exports and submissions. -/
structure Archive where
  exports : List StaticExport
  submissions : List Json

namespace Archive

/-- An archive that keeps nothing yet. -/
def empty : Archive := ⟨[], []⟩

/-- Keeps an export, unless there is one of its name. -/
def keepExport (archive : Archive) (page : StaticExport) : Except ArchiveError Archive :=
  if archive.exports.any (·.fileName == page.fileName) then
    .error (.alreadyExists page.fileName)
  else .ok { archive with exports := archive.exports ++ [page] }

/-- Keeps a submission. -/
def keepSubmission (archive : Archive) (submission : Json) : Archive :=
  { archive with submissions := archive.submissions ++ [submission] }

end Archive

end Questionnaire
