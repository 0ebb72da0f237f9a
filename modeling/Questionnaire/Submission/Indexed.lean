import Questionnaire.Submission.Interactive

/-! # Submissions by position

The indexed submission holds the answers that say something, each at the path of its zero-based
positions: page, section, group and instance. There it is named after its question, and a free text
beside a choice after the question and the option. What has no answer below it is left out. -/

namespace Questionnaire

/-- The answers of one instance, by name. -/
abbrev IndexedSlot := Table String Json

/-- The answers of a form by page, section, group and instance. -/
abbrev IndexedTree := Table Nat (Table Nat (Table Nat (Table Nat IndexedSlot)))

namespace IndexedTree

/-- Puts an answer into the slot of a field. -/
def enter (tree : IndexedTree) (key : FieldKey) (name : String) (value : Json) : IndexedTree :=
  tree.update key.pageIndex .empty fun sections =>
    sections.update key.sectionIndex .empty fun groups =>
      groups.update key.groupIndex .empty fun instances =>
        instances.update key.instanceIndex .empty fun slot =>
          slot.insert name value

/-- The entries of numbered parts as a JSON object. -/
def numbered {α : Type} (part : String) (toJson : α → Json) (entries : Table Nat α) : Json :=
  .object (Json.sortEntries
    (entries.toList.map fun (n, value) => (numberedName part n, toJson value)))

/-- The tree as JSON. -/
def toJson (tree : IndexedTree) : Json :=
  numbered "page" (fun sections => .object [("sections",
    numbered "section" (fun groups => .object [("groups",
      numbered "group" (fun instances => .object [("instances",
        numbered "instance" (fun slot => .object slot.toList)
          instances)]) groups)]) sections)]) tree

end IndexedTree

/-- The name of a question's answer. -/
def leafName (key : FieldKey) : String := numberedName "question" key.questionIndex

/-- The name of the free text beside a choice. -/
def detailName (key : FieldKey) (position : Nat) : String := optionDetailKey (leafName key) position

/-- The answer of a field and the free texts beside its choices, by name; nothing without an answer
that says something. -/
def indexedLeaves (answers : AnswerStore) (key : FieldKey) (question : Question) :
    List (String × Json) :=
  match answers.field? key with
  | none => []
  | some answer =>
    if answer.isTruthy then
      (leafName key, answer.submitted) ::
        (optionDetails answers key.text question).map fun (n, _, text) =>
          (detailName key n, .string text)
    else []

namespace Document

/-- The answers of the questions that are shown and take an answer, each with its field and
name. -/
def indexedAnswers (document : Document) (state : FormState) : List (FieldKey × String × Json) :=
  (document.visibleFields state).flatMap fun (key, question) =>
    if question.answerType.isAnswerable then
      (indexedLeaves state.answers key question).map (key, ·)
    else []

/-- The answers of the form by position. -/
def indexedTree (document : Document) (state : FormState) : IndexedTree :=
  (document.indexedAnswers state).foldl
    (fun (tree : IndexedTree) (key, name, value) => tree.enter key name value) Table.empty

/-- The submission of the form. -/
def indexedSubmission (document : Document) (state : FormState) (exportedAt : String) : Json :=
  .object [("formData", (document.indexedTree state).toJson),
    ("metadata", .object [("exportedAt", .string exportedAt),
      ("totalPages", .ofNat document.pages.length)])]

end Document

end Questionnaire
