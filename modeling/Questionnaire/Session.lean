import Questionnaire.Submission.Indexed
import Questionnaire.Validation

/-! # Filling in a form

A `Session` is a document with the state of one person's answers. Its operations answer and clear
fields, add and remove instances of repeatable groups, and replace the document by an edited one,
which drops all but the first instance of every group that is no longer repeatable. To add an
instance to a group that has as many as a word can count stops the program. -/

namespace Questionnaire

/-- Why a session refuses an operation. -/
inductive SessionError where
  | emptyDocument
  | unknownGroup (group : GroupKey)
  | notRepeatable (group : GroupKey)
  deriving DecidableEq

/-- What is reported about an operation that is refused. -/
def SessionError.message : SessionError → String
  | .emptyDocument => "document has no pages"
  | .unknownGroup group => s!"no group at {group}"
  | .notRepeatable group => s!"group {group} is not repeatable"

/-- A document that is being filled in. -/
structure Session where
  document : Document
  state : FormState
  policy : RemovalPolicy

namespace Session

/-- A session that goes on from a saved state; a document without pages cannot be filled in. -/
def resume (document : Document) (state : FormState) (policy : RemovalPolicy) :
    Except SessionError Session :=
  if document.isUsable then .ok ⟨document, state, policy⟩ else .error .emptyDocument

/-- A session in which nothing has been answered. -/
def start (document : Document) (policy : RemovalPolicy) : Except SessionError Session :=
  resume document .empty policy

/-! ### Answers -/

/-- The answer at a key. -/
def answer? (session : Session) (key : String) : Option AnswerValue :=
  session.state.answers.get? key

/-- Answers the field at a key. -/
def setAnswer (session : Session) (key : String) (value : AnswerValue) : Session :=
  { session with
    state := { session.state with answers := session.state.answers.insert key value } }

/-- Drops the answer at a key. -/
def clearAnswer (session : Session) (key : String) : Session :=
  { session with state := { session.state with answers := session.state.answers.erase key } }

/-- Drops all answers and instances. -/
def reset (session : Session) : Session := { session with state := .empty }

/-! ### Instances -/

/-- Refuses a group that does not exist or is not repeatable. -/
def checkRepeatable (session : Session) (group : GroupKey) : Except SessionError Unit :=
  match session.document.group? group with
  | some found => if found.repeatable then .ok () else .error (.notRepeatable group)
  | none => .error (.unknownGroup group)

/-- Adds an instance of a group, and gives its new count as well. -/
def addInstance (session : Session) (group : GroupKey) :
    Except (Failure SessionError) (Nat × Session) := do
  (session.checkRepeatable group).mapError .refused
  let (count, instances) ← (session.state.instances.add group).mapError .stopped
  return (count, { session with state := { session.state with instances } })

/-- Removes an instance of a group; none if there is no such instance or it is the only one. -/
def removeInstance (session : Session) (group : GroupKey) (index : Nat) :
    Except SessionError (Option Session) := do
  session.checkRepeatable group
  return (session.state.removeInstance? session.policy group index).map fun state =>
    { session with state }

/-! ### Replacing the document -/

/-- Whether a group may be filled in several times. -/
def allowsInstances (document : Document) (group : GroupKey) : Bool :=
  (document.group? group).any (·.repeatable)

/-- The groups with several instances that the document does not allow. -/
def overfilledGroups (document : Document) (instances : InstanceTable) : List GroupKey :=
  (instances.toList.filter fun (group, n) => 1 < n && !allowsInstances document group).map (·.1)

/-- Goes on with another document. -/
def replaceDocument (session : Session) (document : Document) : Except SessionError Session :=
  if document.isUsable then
    .ok { session with
      document
      state := (overfilledGroups document session.state.instances).foldl FormState.collapse
        session.state }
  else .error .emptyDocument

/-! ### Views -/

/-- Which fields are shown. -/
def visibility (session : Session) : VisibilityMap :=
  session.document.visibility session.state .visible

/-- Whether a field is shown; one that is not in the document is not. -/
def isVisible (session : Session) (key : FieldKey) : Bool :=
  (session.visibility.get? key).getD false

/-- What is wrong with the answers. -/
def validate (session : Session) : ValidationReport := session.document.validate session.state

/-- The submission that follows the document. -/
def submission (session : Session) (exportedAt : String) : InteractiveSubmission :=
  session.document.interactiveSubmission session.state exportedAt

end Session

end Questionnaire
