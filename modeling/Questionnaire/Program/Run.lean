import Questionnaire.Document.Import
import Questionnaire.Document.Schema
import Questionnaire.Files.Basic
import Questionnaire.Program.Arguments
import Questionnaire.Shell
import Questionnaire.Text.Decimal

/-! # What the program does

`Program.run` carries out an `Invocation` on a file system. It gives back what is to be written and
the error that the program ends with, if any; `World` holds what else it depends on.

`Clock.print` writes a point in time, given in nanoseconds since the start of 1970, as a date and a
time of day in universal time. Fractions of a second are written as far as they have digits. -/

namespace Questionnaire

/-! ### Points in time -/

namespace Clock

/-- A day of the calendar. -/
structure Date where
  year : Nat
  month : Nat
  day : Nat
  deriving DecidableEq, Repr

/-- Days from the first of March of the year zero to the start of 1970. -/
def epochDays : Nat := 719468

/-- The day of the calendar that lies some days after the start of 1970. Years are counted from
March in eras of 400, so that the leap day comes last. -/
def date (days : Nat) : Date :=
  let n := days + epochDays
  let dayOfEra := n % 146097
  let yearOfEra := (dayOfEra - dayOfEra / 1460 + dayOfEra / 36524 - dayOfEra / 146096) / 365
  let dayOfYear := dayOfEra - (365 * yearOfEra + yearOfEra / 4 - yearOfEra / 100)
  let shifted := (5 * dayOfYear + 2) / 153
  let month := if shifted < 10 then shifted + 3 else shifted - 9
  let year := yearOfEra + n / 146097 * 400
  ⟨if month ≤ 2 then year + 1 else year, month, dayOfYear - (153 * shifted + 2) / 5 + 1⟩

example : date 0 = ⟨1970, 1, 1⟩ ∧ date 11016 = ⟨2000, 2, 29⟩ ∧ date 19723 = ⟨2024, 1, 1⟩ := by
  decide

/-- A number with leading zeros. -/
def padded (width n : Nat) : List Char :=
  let digits := Decimal.print n
  List.replicate (width - digits.length) '0' ++ digits

/-- A fraction of a second, with a point unless it is zero. -/
def fraction (nanoseconds : Nat) : List Char :=
  if nanoseconds = 0 then []
  else '.' :: ((padded 9 nanoseconds).reverse.dropWhile (· == '0')).reverse

/-- A point in time as text. -/
def print (nanoseconds : Nat) : String :=
  let seconds := nanoseconds / 1000000000
  let day := date (seconds / 86400)
  .ofList (padded 4 day.year ++ '-' :: padded 2 day.month ++ '-' :: padded 2 day.day
    ++ 'T' :: padded 2 (seconds / 3600 % 24) ++ ':' :: padded 2 (seconds / 60 % 60)
    ++ ':' :: padded 2 (seconds % 60) ++ fraction (nanoseconds % 1000000000) ++ ['Z'])

end Clock

/-! ### Errors -/

/-- Why the program ends with an error. -/
inductive ProgramError where
  | importing (error : ImportError)
  | file (error : FileError)
  | decode (error : DecodeError)
  | session (error : SessionError)
  | exporting (error : ExportError)
  | alreadyExists (path : String)
  | unwritable (path : String)
  | emptyOutput
  | invalidAnswers
  /-- The program does not end by itself but stops. -/
  | stopped (overflow : Overflow)

/-- What is reported about an error that the program ends with. -/
def ProgramError.message : ProgramError → String
  | .importing error => error.message
  | .file problem => problem.message
  | .decode error => error.message
  | .session error => error.message
  | .exporting error => error.message
  | .alreadyExists path => s!"'{path}' already exists"
  | .unwritable path => s!"failed to write '{path}'"
  | .emptyOutput => "output directory cannot be empty"
  | .invalidAnswers => "validation failed"
  | .stopped overflow => overflow.message

/-- The end of the program at an import that gives no document. -/
def ProgramError.ofImport : Failure ImportError → ProgramError
  | .refused error => .importing error
  | .stopped overflow => .stopped overflow

/-- A piece of output, which a line break follows. -/
inductive Output where
  | standard (text : String)
  | diagnostic (text : String)

/-- What the program depends on besides its arguments and files. -/
structure World where
  /-- The time for submissions. -/
  now : String
  /-- The directory for exports if none is given. -/
  outputDirectory : Option String
  /-- What is typed into the shell. -/
  input : String

namespace Program

/-- A step of the program: it writes output and may end with an error. -/
abbrev Step (m : Type → Type) := ExceptT ProgramError (StateT (List Output) m)

variable {m : Type → Type} [Monad m]

/-- Writes a piece of standard output. -/
def print (text : String) : Step m Unit := modify (· ++ [.standard text])

/-- Ends with an error, if there is one. -/
def orFail {ε α : Type} (error : ε → ProgramError) : Except ε α → Step m α
  | .ok value => pure value
  | .error e => throw (error e)

/-! ### Reading -/

/-- The largest document, in bytes. -/
def importLimit : Nat := 10485760

/-- Whether a path names a JSON file. -/
def isJsonPath (path : String) : Bool :=
  (Path.extension? path).any fun name => name.map Char.toLower == ['j', 's', 'o', 'n']

/-- Imports the document in a file. -/
def importFile (files : FileSystem m) (path : String) : Step m Document := do
  if !isJsonPath path then throw (.importing (.unsupportedFile path))
  let read ← files.read path
  let content ← orFail (fun _ => .importing (.unreadable path)) read
  if importLimit < content.size then
    throw (.importing (.tooLarge path content.size importLimit))
  orFail .ofImport (Document.importSource content.source
    (.ofList ((Path.fileName? path).getD [])))

/-- Reads a JSON file. -/
def readJson {α : Type} (files : FileSystem m) (decode : Decoder α) (path : String) : Step m α := do
  let read ← files.read path
  let text ← orFail .file (read.bind FileContent.asText)
  orFail .decode (decode.ofText text)

/-- A session with the document and the answers in two files. -/
def loadSession (files : FileSystem m) (document : String) (answers : Option String) :
    Step m Session := do
  let document ← importFile files document
  let state ← match answers with
    | some path => readJson files FormState.decode path
    | none => pure .empty
  orFail .session (Session.resume document state .compact)

/-! ### Inspecting -/

/-- The line about a group. -/
def groupLine (group : Group) : String :=
  let conditional := (group.questions.filter (·.isConditional)).length
  s!"    - Group: {group.title} ({group.questions.length} questions, {conditional} conditional"
    ++ (if group.repeatable then ", repeatable)" else ")")

/-- The lines about a section. -/
def sectionLines (part : Section) : List String :=
  ("  - Section: " ++ part.title) :: part.groups.map groupLine

/-- The lines about a page. -/
def pageLines (page : Page) : List String :=
  s!"- Page {page.pageNumber}: {page.title}" :: page.sections.flatMap sectionLines

/-- The lines about a document. -/
def documentLines (document : Document) : List String :=
  ("Source: " ++ document.sourceName) ::
    s!"Pages: {document.pages.length}, questions: {document.totalQuestions}" ::
    document.pages.flatMap pageLines

/-! ### Writing -/

/-- The directory that exports are written to. -/
def outputRoot (world : World) (out : Option String) : Except ProgramError String :=
  match (out <|> world.outputDirectory).getD "." with
  | "" => .error .emptyOutput
  | root => .ok root

/-- Writes an exported form into a directory and gives its path. An existing file is replaced only
if that is forced. -/
def writeExport (files : FileSystem m) (root : String) (force : Bool) (page : StaticExport) :
    Step m String := do
  let target := Path.join root page.fileName
  let taken ← files.isThere target
  if taken && !force then throw (.alreadyExists target)
  let made ← files.makeDirectories root
  orFail (fun _ => .unwritable root) made
  let written ← files.write target page.html
  orFail (fun _ => .unwritable target) written
  return target

/-- Writes a text to a file, and makes the directory of the file. -/
def writeInto (files : FileSystem m) (path text : String) : Step m Unit := do
  let directory := Path.parent path
  if directory != "" then
    let made ← files.makeDirectories directory
    orFail (fun _ => .unwritable directory) made
  let written ← files.write path text
  orFail (fun _ => .unwritable path) written

/-- The lines about what is wrong with some answers. -/
def reportLines (report : ValidationReport) : List String :=
  if report.isValid then [] else "Errors:" :: report.map Shell.reportLine

/-! ### Commands -/

/-- Summarises a document. -/
def inspect (files : FileSystem m) (document : String) : Step m Unit := do
  (documentLines (← importFile files document)).forM print

/-- Writes the schema of documents. -/
def schema (files : FileSystem m) (out : Option String) : Step m Unit := do
  let text := Document.schema.pretty
  match out with
  | some path =>
    let written ← files.write path (text ++ "\n")
    orFail .file written
    print ("Schema written to " ++ path)
  | none => print text

/-- Exports a document. -/
def exportForm (files : FileSystem m) (world : World) (document : String)
    (out config : Option String) (fidelity : Option InstanceFidelity) (title : Option String)
    (force : Bool) : Step m Unit := do
  let document ← importFile files document
  let options ← match config with
    | some path => readJson files ExportOptions.decode path
    | none => pure .standard
  let options : ExportOptions :=
    { fidelity := fidelity.getD options.fidelity, title := title <|> options.title }
  let page ← orFail .exporting (document.exportPage options)
  let root ← orFail id (outputRoot world out)
  print ("Static form written to " ++ (← writeExport files root force page))

/-- Validates answers. -/
def validate (files : FileSystem m) (document : String) (answers : Option String) :
    Step m Unit := do
  let report := (← loadSession files document answers).validate
  print ("Validation result: " ++ (if report.isValid then "valid" else "invalid"))
  (reportLines report).forM print
  if !report.isValid then throw .invalidAnswers

/-- The submission of a session in one of its shapes, with keys in order. -/
def submissionJson (session : Session) (format : SubmitFormat) (now : String) : Json :=
  match format with
  | .interactive => (session.submission now).toJson.sorted
  | .indexed => session.document.indexedSubmission session.state now

/-- Writes a submission, unless the answers are invalid. -/
def submit (files : FileSystem m) (world : World) (document answers : String)
    (format : SubmitFormat) (out : Option String) : Step m Unit := do
  let session ← loadSession files document (some answers)
  let report := session.validate
  if !report.isValid then
    modify (· ++ [.diagnostic "Submission rejected:"])
    (reportLines report).forM print
    throw .invalidAnswers
  let text := (submissionJson session format world.now).pretty
  match out with
  | some path => writeInto files path (text ++ "\n")
  | none => print text

/-- Runs the shell. -/
def preview (files : FileSystem m) (world : World) (document : String) (answers : Option String) :
    Step m Unit := do
  let session ← loadSession files document answers
  let (written, stop) := Shell.transcript session world.now world.input
  written.forM print
  match stop with
  | some overflow => throw (.stopped overflow)
  | none => pure ()

/-- Carries out an invocation. -/
def carryOut (files : FileSystem m) (world : World) : Invocation → Step m Unit
  | .inspect document => inspect files document
  | .schema out => schema files out
  | .exportForm document out config fidelity title force =>
    exportForm files world document out config fidelity title force
  | .validate document answers => validate files document answers
  | .submit document answers format out => submit files world document answers format out
  | .preview document answers => preview files world document answers

/-- Carries out an invocation, and gives back the output and the error at the end, if any. -/
def run (files : FileSystem m) (world : World) (invocation : Invocation) :
    m (List Output × Option ProgramError) := do
  match ← (carryOut files world invocation).run.run [] with
  | (.ok (), output) => return (output, none)
  | (.error error, output) => return (output, some error)

end Program

end Questionnaire
