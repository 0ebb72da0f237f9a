import Questionnaire.Document.Basic

/-! # Editing documents

An `Edit` replaces, inserts, removes or moves a question or says whether a group is repeatable.
`Document.edit` makes the edited document or says why it cannot be made; an edit of questions
that would leave the document with a dependency issue is refused. -/

namespace Questionnaire

/-- Why an edit is refused. -/
inductive EditError where
  | unknownQuestion (id : QuestionId)
  | unknownGroup (group : GroupKey)
  | outOfBounds (group : GroupKey) (position length : Nat)
  | dependency (issue : DependencyIssue)
  deriving DecidableEq

/-- What is reported about an edit that is refused. -/
def EditError.message : EditError → String
  | .unknownQuestion id => s!"no question with id '{id}'"
  | .unknownGroup group => s!"no group at {group}"
  | .outOfBounds group position length =>
    s!"position {position} is outside group {group} with {length} questions"
  | .dependency issue => "edit would leave the document inconsistent: " ++ issue.message

/-- A change to a document. -/
inductive Edit where
  /-- Replaces the question with the identifier, which the new one takes over. -/
  | update (id : QuestionId) (question : Question)
  /-- Inserts a question; without a position, at the end of the group. -/
  | insert (group : GroupKey) (position : Option Nat) (question : Question)
  /-- Removes the question with the identifier; its dependents become unconditional. -/
  | remove (id : QuestionId)
  | move (id : QuestionId) (group : GroupKey) (position : Nat)
  | setRepeatable (group : GroupKey) (repeatable : Bool)

namespace Document

/-- The document, provided that it has no dependency issue. -/
def ensureConsistent (document : Document) : Except EditError Document :=
  match document.checkDependencies with
  | [] => .ok document
  | issue :: _ => .error (.dependency issue)

/-- Where the question with the identifier stands. -/
def find (document : Document) (id : QuestionId) : Except EditError QuestionCoords :=
  match document.locate? id with
  | some coords => .ok coords
  | none => .error (.unknownQuestion id)

/-- The group at a key. -/
def findGroup (document : Document) (key : GroupKey) : Except EditError Group :=
  match document.group? key with
  | some group => .ok group
  | none => .error (.unknownGroup key)

/-- The document with the questions of one group changed. -/
def modifyQuestions (document : Document) (key : GroupKey)
    (change : List Question → List Question) : Document :=
  document.modifyGroup key fun group => { group with questions := change group.questions }

/-- Puts a question at a position of a group, counted in the group as it is. -/
def place (document : Document) (key : GroupKey) (position : Option Nat) (question : Question) :
    Except EditError Document := do
  let length := (← document.findGroup key).questions.length
  let position := position.getD length
  if length < position then throw (.outOfBounds key position length)
  ensureConsistent (document.modifyQuestions key (·.insertIdx position question))

/-- The document without the question at some coordinates. -/
def takeOut (document : Document) (coords : QuestionCoords) : Document :=
  document.modifyQuestions coords.groupKey (·.eraseIdx coords.questionIndex)

/-- Frees a question from a parent. -/
def unlink (parent : QuestionId) (question : Question) : Question :=
  if question.parent = some parent then { question with parent := none, showWhen := none }
  else question

/-- Replaces the question with the identifier. -/
def updateQuestion (document : Document) (id : QuestionId) (question : Question) :
    Except EditError Document := do
  let coords ← document.find id
  ensureConsistent
    (document.modifyQuestions coords.groupKey (·.set coords.questionIndex { question with id }))

/-- Inserts a question into a group. -/
def insertQuestion (document : Document) (group : GroupKey) (position : Option Nat)
    (question : Question) : Except EditError Document :=
  document.place group position question

/-- Removes the question with the identifier and frees its dependents. -/
def removeQuestion (document : Document) (id : QuestionId) : Except EditError Document := do
  let coords ← document.find id
  ensureConsistent ((document.takeOut coords).mapQuestions (unlink id))

/-- Moves the question with the identifier; the position counts without it. -/
def moveQuestion (document : Document) (id : QuestionId) (group : GroupKey) (position : Nat) :
    Except EditError Document := do
  let coords ← document.find id
  match document.question? coords with
  | some question => (document.takeOut coords).place group (some position) question
  | none => throw (.unknownQuestion id)

/-- Says whether a group is repeatable. -/
def setRepeatable (document : Document) (group : GroupKey) (repeatable : Bool) :
    Except EditError Document := do
  let _ ← document.findGroup group
  return document.modifyGroup group fun g => { g with repeatable }

/-- Makes an edit. -/
def edit (document : Document) : Edit → Except EditError Document
  | .update id question => document.updateQuestion id question
  | .insert group position question => document.insertQuestion group position question
  | .remove id => document.removeQuestion id
  | .move id group position => document.moveQuestion id group position
  | .setRepeatable group repeatable => document.setRepeatable group repeatable

end Document

end Questionnaire
