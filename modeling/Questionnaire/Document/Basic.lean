import Questionnaire.Question.Codec

/-! # Form documents

A document has pages, a page has sections, a section has groups and a group has questions; a
repeatable group may be filled in several times. `Document.groups` and `Document.questions` list
what there is in document order with its coordinates, `Document.group?` and `Document.question?`
look up coordinates, and `Document.locate?` and `Document.index` find a question by its
identifier: the first one that has it.

A question that depends on another one names it by its identifier. `Document.checkDependencies`
reports every question whose identifier has been used before, or whose parent is missing, is no
choice question or does not come first; a document without such issues is consistent. -/

namespace Questionnaire

/-- Questions that are filled in together, as often as needed if the group is repeatable. -/
structure Group where
  title : String
  repeatable : Bool
  questions : List Question
  deriving Inhabited

/-- A titled part of a page. -/
structure Section where
  title : String
  groups : List Group
  deriving Inhabited

/-- A page of a form. -/
structure Page where
  title : String
  pageNumber : Nat
  sections : List Section
  deriving Inhabited

/-- A form. -/
structure Document where
  /-- The name of the file that the form was taken from. -/
  sourceName : String
  pages : List Page
  deriving Inhabited

namespace Document

/-- Whether there is anything to fill in or show. -/
def isUsable (document : Document) : Bool := !document.pages.isEmpty

/-- Every group with its key, in document order. -/
def groups (document : Document) : List (GroupKey × Group) :=
  document.pages.zipIdx.flatMap fun (page, p) =>
    page.sections.zipIdx.flatMap fun (part, s) =>
      part.groups.zipIdx.map fun (group, g) => (⟨p, s, g⟩, group)

/-- The questions of a group with their coordinates. -/
def questionsAt (key : GroupKey) (group : Group) : List (QuestionCoords × Question) :=
  group.questions.zipIdx.map fun (question, q) => (key.question q, question)

/-- Every question of a group with its coordinates, in document order; sub-questions are part of
their question. -/
def questions (document : Document) : List (QuestionCoords × Question) :=
  document.groups.flatMap fun (key, group) => questionsAt key group

/-- How many questions there are. -/
def totalQuestions (document : Document) : Nat := document.questions.length

/-- The group at a key. -/
def group? (document : Document) (key : GroupKey) : Option Group := do
  let page ← document.pages[key.pageIndex]?
  let part ← page.sections[key.sectionIndex]?
  part.groups[key.groupIndex]?

/-- The question at some coordinates. -/
def question? (document : Document) (coords : QuestionCoords) : Option Question := do
  (← document.group? coords.groupKey).questions[coords.questionIndex]?

/-- Where the first question with the identifier stands. -/
def locate? (document : Document) (id : QuestionId) : Option QuestionCoords :=
  (document.questions.find? fun (_, question) => question.id == id).map (·.1)

/-- The document with one of its groups changed. -/
def modifyGroup (document : Document) (key : GroupKey) (change : Group → Group) : Document :=
  { document with
    pages := document.pages.modify key.pageIndex fun page =>
      { page with
        sections := page.sections.modify key.sectionIndex fun part =>
          { part with groups := part.groups.modify key.groupIndex change } } }

/-- The document with every question of a group changed. -/
def mapQuestions (document : Document) (change : Question → Question) : Document :=
  { document with
    pages := document.pages.map fun page =>
      { page with
        sections := page.sections.map fun part =>
          { part with
            groups := part.groups.map fun group =>
              { group with questions := group.questions.map change } } } }

end Document

/-- Questions by identifier, with their coordinates. -/
abbrev QuestionIndex := Table QuestionId (QuestionCoords × Question)

/-- Enters a question unless its identifier is taken. -/
def QuestionIndex.add (index : QuestionIndex) (entry : QuestionCoords × Question) :
    QuestionIndex :=
  if index.contains entry.2.id then index else index.insert entry.2.id entry

/-- The questions of a document by identifier, the first of those that share one. -/
def Document.index (document : Document) : QuestionIndex :=
  document.questions.foldl QuestionIndex.add Table.empty

/-! ### Parent links -/

/-- What can be wrong with a question's identifier or its parent link. -/
inductive DependencyIssue where
  | duplicateId (id : QuestionId)
  | unknownParent (question parent : QuestionId)
  | parentNotChoice (question parent : QuestionId) (kind : AnswerType)
  | parentNotEarlier (question parent : QuestionId)
  deriving DecidableEq

/-- What is reported about an issue. -/
def DependencyIssue.message : DependencyIssue → String
  | .duplicateId id => s!"question '{id}' appears more than once"
  | .unknownParent question parent =>
    s!"question '{question}' depends on unknown question '{parent}'"
  | .parentNotChoice question parent kind =>
    s!"question '{question}' depends on '{parent}' which is a " ++ kind.name ++ " question"
  | .parentNotEarlier question parent =>
    s!"question '{question}' depends on '{parent}' which does not precede it"

namespace Document

/-- The issue of a question's parent link, given the questions with new identifiers before it. -/
def linkIssue? (document : Document) (earlier : List Question) (question : Question) :
    Option DependencyIssue := do
  let parent ← question.parent
  match earlier.find? (·.id == parent) with
  | some found =>
    if found.answerType.canBeParent then none
    else some (.parentNotChoice question.id parent found.answerType)
  | none =>
    if (document.locate? parent).isSome then some (.parentNotEarlier question.id parent)
    else some (.unknownParent question.id parent)

/-- The issues of the questions in a row; `earlier` are those before them with new identifiers. -/
def issuesAfter (document : Document) (earlier : List Question) :
    List Question → List DependencyIssue
  | [] => []
  | question :: rest =>
    if earlier.any (·.id == question.id) then
      .duplicateId question.id :: issuesAfter document earlier rest
    else
      (document.linkIssue? earlier question).toList
        ++ issuesAfter document (earlier ++ [question]) rest

/-- Every issue of the document, in document order. -/
def checkDependencies (document : Document) : List DependencyIssue :=
  document.issuesAfter [] (document.questions.map (·.2))

end Document

end Questionnaire
