import Questionnaire.Text.Blank
import Questionnaire.Text.Decimal
import Questionnaire.Text.Lowercase
import Questionnaire.Visibility

/-! # Submissions that follow the document

The interactive submission has an entry for every page, section, group and instance, and in each
instance one for every question that is shown and takes an answer, whether it has been answered or
not. Entries go by the slugs of the questions' texts: a text in lower case, with an underscore for
every run of blanks and without anything but the letters, digits and underscores of ASCII.
`uniqueSlug` numbers the slugs of questions whose texts have the same one. -/

namespace Questionnaire

/-! ### Slugs -/

/-- The largest length of a slug without its number. -/
def slugLimit : Nat := 50

/-- Whether a character stays in a slug. -/
def isSlugChar (c : Char) : Bool :=
  ('a' ≤ c && c ≤ 'z') || ('A' ≤ c && c ≤ 'Z') || Decimal.isDigit c || c == '_'

/-- The slug of a text in lower case; `afterBlank` says whether a run of blanks has begun. -/
def slugChars (afterBlank : Bool) : List Char → List Char
  | [] => []
  | c :: rest =>
    if Text.isBrowserBlank c then
      if afterBlank then slugChars true rest else '_' :: slugChars true rest
    else if isSlugChar c then c :: slugChars false rest
    else slugChars afterBlank rest

/-- The slug of a text. -/
def slugify (text : String) : String :=
  .ofList ((slugChars false (Text.lowercase text.toList)).take slugLimit)

/-- The slug of the question with the text at a position of its group; an empty one is replaced by
the position. -/
def baseSlug (text : String) (position : Nat) : String :=
  let slug := slugify text
  if slug = "" then "question_" ++ .ofList (Decimal.print (position + 1)) else slug

/-- A slug with a number. -/
def numberedSlug (base : String) (n : Nat) : String := base ++ "_" ++ .ofList (Decimal.print n)

/-- The slug, with the least number from two on that makes it differ from those taken, if it is
among them. -/
def uniqueSlug (taken : List String) (base : String) : String :=
  if taken.contains base then
    (((List.range' 2 (taken.length + 1)).map (numberedSlug base)).find?
      (!taken.contains ·)).getD base
  else base

/-! ### Free texts beside choices -/

/-- Whether an answer chooses the option with the value. -/
def chooses : Option AnswerValue → String → Bool
  | some (.text chosen), value => chosen == value
  | some (.multi chosen), value => chosen.contains value
  | _, _ => false

/-- The free text typed for the option at a position of the question at `key`, unless it is
empty. -/
def detailText? (answers : AnswerStore) (key : String) (position : Nat) : Option String :=
  ((answers.get? (optionDetailKey key position)).bind AnswerValue.asText?).filter (· != "")

/-- The free texts of the chosen options of the question at `key`, each with its option and the
option's position. -/
def optionDetails (answers : AnswerStore) (key : String) (question : Question) :
    List (Nat × ChoiceOption × String) :=
  question.options.zipIdx.filterMap fun (option, n) =>
    if option.requiresInput && chooses (answers.get? key) option.value then
      (detailText? answers key n).map (n, option, ·)
    else none

/-! ### Entries -/

/-- What a submission says of one question. -/
structure AnswerEntry where
  question : String
  answer : Json
  answerType : AnswerType
  file : Option FileDescriptor
  /-- The free texts of chosen options, by the value of the option. -/
  details : List (String × String)

/-- What a submission says of one instance of a group; entries go by slug. -/
structure InstanceEntry where
  number : Nat
  questions : List (String × AnswerEntry)

/-- What a submission says of a group. -/
structure GroupEntry where
  title : String
  repeatable : Bool
  instances : List InstanceEntry

/-- What a submission says of a section. -/
structure SectionEntry where
  title : String
  groups : List GroupEntry

/-- What a submission says of a page. -/
structure PageEntry where
  title : String
  sections : List SectionEntry

/-- A submission that follows the document. -/
structure InteractiveSubmission where
  pages : List PageEntry
  exportedAt : String
  totalPages : Nat
  sourceName : String

/-- Enters a value under a name; an earlier value of the name is replaced where it stands. -/
def enterNamed {α : Type} (entries : List (String × α)) (name : String) (value : α) :
    List (String × α) :=
  if entries.any (·.1 == name) then
    entries.map fun entry => if entry.1 == name then (name, value) else entry
  else entries ++ [(name, value)]

/-- The entry of the question at `key`. -/
def answerEntry (answers : AnswerStore) (key : String) (question : Question) : AnswerEntry where
  question := question.text
  answer := (answers.get? key).elim .null AnswerValue.submitted
  answerType := question.answerType
  file := (answers.get? key).bind AnswerValue.asFile?
  details := (optionDetails answers key question).foldl
    (fun details (_, option, text) => enterNamed details option.value text) []

/-- Adds the entry of a question under a slug of its own. -/
def enterQuestion (answers : AnswerStore) (position : Nat) (entries : List (String × AnswerEntry))
    (key : String) (question : Question) : List (String × AnswerEntry) :=
  let slug := uniqueSlug (entries.map (·.1)) (baseSlug question.text position)
  enterNamed entries slug (answerEntry answers key question)

/-- The questions that have an entry if the question at `key` is shown: itself and the sub-questions
that take an answer, with their keys. -/
def enteredQuestions (key : FieldKey) (question : Question) : List (String × Question) :=
  (key.text, question) :: question.subQuestions.zipIdx.filterMap fun (sub, n) =>
    if sub.answerType.isAnswerable then some (key.sub n, sub) else none

namespace Document

variable (document : Document) (state : FormState)

/-- The entries of one instance of a group. -/
def instanceEntry (index : QuestionIndex) (key : GroupKey) (group : Group) (i : Nat) :
    InstanceEntry where
  number := i + 1
  questions := (questionsAt key group).foldl
    (fun entries (coords, question) =>
      if question.answerType.isAnswerable
          && questionVisible index state.answers .visible coords question i then
        (enteredQuestions (coords.fieldKey i) question).foldl
          (fun entries (key, question) =>
            enterQuestion state.answers coords.questionIndex entries key question)
          entries
      else entries)
    []

/-- The entry of a group. -/
def groupEntry (index : QuestionIndex) (key : GroupKey) (group : Group) : GroupEntry where
  title := group.title
  repeatable := group.repeatable
  instances := (List.range (document.liveInstances state.instances key)).map
    (instanceEntry state index key group)

/-- The submission of the form. -/
def interactiveSubmission (exportedAt : String) : InteractiveSubmission where
  pages :=
    let index := document.index
    document.pages.zipIdx.map fun (page, p) =>
      { title := page.title
        sections := page.sections.zipIdx.map fun (part, s) =>
          { title := part.title
            groups := part.groups.zipIdx.map fun (group, g) =>
              document.groupEntry state index ⟨p, s, g⟩ group } }
  exportedAt := exportedAt
  totalPages := document.pages.length
  sourceName := document.sourceName

end Document

/-! ### JSON -/

namespace AnswerEntry

/-- The entry as JSON. -/
def toJson (entry : AnswerEntry) : Json :=
  .record [("question", some (.string entry.question)), ("answer", some entry.answer),
    ("type", some (.string entry.answerType.name)),
    ("file", entry.file.map FileDescriptor.toJson),
    ("details", if entry.details.isEmpty then none
      else some (.object (entry.details.map fun (value, text) => (value, .string text))))]

end AnswerEntry

namespace InstanceEntry

/-- The entry as JSON. -/
def toJson (entry : InstanceEntry) : Json :=
  .object [("instance", .ofNat entry.number),
    ("questions", .object (entry.questions.map fun (slug, answer) => (slug, answer.toJson)))]

end InstanceEntry

namespace GroupEntry

/-- The entry as JSON. -/
def toJson (entry : GroupEntry) : Json :=
  .object [("title", .string entry.title), ("repeatable", .bool entry.repeatable),
    ("instances", .array (entry.instances.map InstanceEntry.toJson))]

end GroupEntry

namespace SectionEntry

/-- The entry as JSON. -/
def toJson (entry : SectionEntry) : Json :=
  .object [("title", .string entry.title),
    ("groups", .array (entry.groups.map GroupEntry.toJson))]

end SectionEntry

namespace PageEntry

/-- The entry as JSON. -/
def toJson (entry : PageEntry) : Json :=
  .object [("title", .string entry.title),
    ("sections", .array (entry.sections.map SectionEntry.toJson))]

end PageEntry

/-- The name of a numbered part. -/
def numberedName (part : String) (n : Nat) : String := part ++ "_" ++ .ofList (Decimal.print n)

namespace InteractiveSubmission

/-- The submission as JSON; pages are numbered from one. -/
def toJson (submission : InteractiveSubmission) : Json :=
  .object [
    ("formData", .object (submission.pages.zipIdx.map fun (page, p) =>
      (numberedName "page" (p + 1), page.toJson))),
    ("metadata", .object [("exportedAt", .string submission.exportedAt),
      ("totalPages", .ofNat submission.totalPages),
      ("sourceDocument", .string submission.sourceName)])]

end InteractiveSubmission

end Questionnaire
