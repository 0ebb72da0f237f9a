import Questionnaire.Answer.Instances
import Questionnaire.Document.Basic

/-! # Which questions are shown

A question with a parent is shown if the parent's answer reveals it (`Question.isVisible`). The
answer is read at the question's own instance if both stand in one group, and else at the first
instance of the parent's group (`parentFieldKey?`). `Document.visibility` decides every question
at every instance. -/

namespace Questionnaire

/-- Whether a question is shown whose parent is not in the document. -/
inductive VisibilityMode where
  | visible
  | hidden
  deriving DecidableEq, Repr

/-- Fields in order, with whether they are shown. -/
abbrev VisibilityMap := Table FieldKey Bool

/-- The value that an answer is compared by: its text or the name of its file. -/
def AnswerValue.scalar? : AnswerValue → Option String
  | .text value => some value
  | .file descriptor => some descriptor.name
  | _ => none

/-- Whether an answer has one of the revealing values. -/
def ShowWhen.matches (showWhen : ShowWhen) : AnswerValue → Bool
  | .multi values => values.any showWhen.contains
  | answer => answer.scalar?.any showWhen.contains

namespace Question

/-- Whether an answer of the parent reveals the question; without revealing values any answer that
says something does. -/
def isRevealedBy (question : Question) (answer : AnswerValue) : Bool :=
  match question.showWhen with
  | none => answer.isTruthy
  | some showWhen => showWhen.matches answer

/-- Whether a question is shown, given the answer of its parent. -/
def isVisible (question : Question) (parentAnswer : Option AnswerValue) : Bool :=
  !question.isConditional || parentAnswer.any question.isRevealedBy

end Question

/-- The field that decides whether a question is shown at an instance. -/
def parentFieldKey? (index : QuestionIndex) (coords : QuestionCoords) (question : Question)
    (instanceIndex : Nat) : Option FieldKey := do
  let (parent, _) ← index.get? (← question.parent)
  return parent.fieldKey (if parent.groupKey = coords.groupKey then instanceIndex else 0)

/-- Whether a question is shown at an instance. -/
def questionVisible (index : QuestionIndex) (answers : AnswerStore) (mode : VisibilityMode)
    (coords : QuestionCoords) (question : Question) (instanceIndex : Nat) : Bool :=
  if question.isConditional then
    match parentFieldKey? index coords question instanceIndex with
    | some parent => question.isVisible (answers.field? parent)
    | none => mode = .visible
  else true

namespace Document

/-- How often a group is filled in: once unless it is repeatable. -/
def liveInstances (document : Document) (instances : InstanceTable) (key : GroupKey) : Nat :=
  match document.group? key with
  | some group => if group.repeatable then instances.count key else 1
  | none => 1

/-- The questions in document order, each at every instance of its group. -/
def liveFields (document : Document) (instances : InstanceTable) :
    List (FieldKey × QuestionCoords × Question) :=
  document.questions.flatMap fun (coords, question) =>
    (List.range (document.liveInstances instances coords.groupKey)).map fun i =>
      (coords.fieldKey i, coords, question)

/-- Which fields are shown. -/
def visibility (document : Document) (state : FormState) (mode : VisibilityMode) : VisibilityMap :=
  let index := document.index
  .ofList ((document.liveFields state.instances).map fun (key, coords, question) =>
    (key, questionVisible index state.answers mode coords question key.instanceIndex))

/-- The fields that are shown, in document order, with their questions. -/
def visibleFields (document : Document) (state : FormState) : List (FieldKey × Question) :=
  let index := document.index
  (document.liveFields state.instances).filterMap fun (key, coords, question) =>
    if questionVisible index state.answers .visible coords question key.instanceIndex then
      some (key, question)
    else none

end Document

end Questionnaire
