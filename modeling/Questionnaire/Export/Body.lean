import Questionnaire.Document.Basic
import Questionnaire.Export.Markup
import Questionnaire.Question.Codec

/-! # The body of an exported form

Every group is written with one instance, and a repeatable group may bring a template of further
ones, in which a placeholder stands for the index. Attributes of a question's element carry its
whole rule, so that a script can show, hide and check it. -/

namespace Questionnaire

/-- How faithfully the instances that are added to a group repeat its questions. -/
inductive InstanceFidelity where
  /-- Every question as a plain text input. -/
  | genericText
  /-- Copies of a template. -/
  | template
  deriving DecidableEq, Repr

namespace InstanceFidelity

/-- The name of a fidelity. -/
def name : InstanceFidelity → String
  | .genericText => "generic_text"
  | .template => "template"

/-- Decodes a fidelity. -/
def decode : Decoder InstanceFidelity :=
  Decoder.variant [("generic_text", .genericText), ("template", .template)]

end InstanceFidelity

/-- Which instance of a group is written: one with an index, or a template of any. -/
inductive InstanceSlot where
  | index (n : Nat)
  | placeholder
  deriving DecidableEq, Repr

/-- A natural number as text. -/
def natText (n : Nat) : String := .ofList (Decimal.print n)

/-- A truth value as text. -/
def boolText (value : Bool) : String := if value then "true" else "false"

namespace InstanceSlot

/-- What stands for the index in a template. -/
def placeholderText : String := "__INSTANCE__"

/-- The text of the index. -/
def label : InstanceSlot → String
  | index n => natText n
  | placeholder => placeholderText

/-- The number shown for the instance, counted from one; a template shows none. -/
def number : InstanceSlot → String
  | index n => natText (n + 1)
  | placeholder => ""

end InstanceSlot

/-- The key of a question at a slot. -/
def slotKey (coords : QuestionCoords) (slot : InstanceSlot) : String :=
  .ofList (coords.groupKey.chars ++ '_' :: coordinateText 'q' coords.questionIndex
    ++ ['_', 'i']) ++ slot.label

namespace Markup

/-! ### The rule of a question -/

/-- The attributes that tell when a question is shown; a sub-question has none. -/
def parentAttributes (question : Question) (isSub : Bool) : List Attribute :=
  match question.parent with
  | some parent =>
    if isSub then []
    else attr "data-parent-id" parent ::
      (question.showWhen.map fun showWhen => attr "data-show-when" showWhen.toJson.compact).toList
  | none => []

/-- The attribute that carries the rules for valid answers, if there are any. -/
def validationAttributes (question : Question) : List Attribute :=
  match question.validation with
  | some spec => if spec.isEmpty then [] else [attr "data-validation" spec.toJson.compact]
  | none => []

/-- The attribute that lists the persons of a question for several persons. -/
def personAttributes (question : Question) : List Attribute :=
  if question.answerType = .radioMultiPerson then
    [attr "data-applies-to" (Json.strings question.appliesTo).compact]
  else []

/-- The attributes of a question's element. -/
def questionAttributes (question : Question) (key : String) (isSub : Bool) : List Attribute :=
  [attr "class" (if isSub then "fc-question fc-subquestion" else "fc-question"),
    attr "data-field-key" key, attr "data-question-id" question.id,
    attr "data-type" question.answerType.name, attr "data-required" (boolText question.required)]
    ++ parentAttributes question isSub ++ validationAttributes question
    ++ personAttributes question

/-! ### Inputs -/

/-- The mark of a required question. -/
def requiredMark (question : Question) : List Markup :=
  if question.required then
    element "span" [attr "class" "fc-required", attr "aria-hidden" "true"] [text "*"]
  else []

/-- The label of the input of a question. -/
def inputLabel (question : Question) (key : String) : List Markup :=
  elementLine "label" [attr "class" "fc-label", attr "for" key]
    (text question.text :: requiredMark question)

/-- The label of a question with several inputs. -/
def groupLabel (question : Question) : List Markup :=
  elementLine "span" [attr "class" "fc-label"] (text question.text :: requiredMark question)

/-- An input on a line of its own. -/
def inputLine (attributes : List Attribute) : List Markup := line [opening "input" attributes]

/-- The input for the free text that belongs to a choice, hidden until it is chosen. -/
def optionDetail (key : String) (position : Nat) (option : ChoiceOption) : List Markup :=
  let detail := optionDetailKey key position
  inputLine [attr "type" (option.inputType.getD "text"), attr "class" "fc-option-detail",
    attr "id" detail, attr "name" detail, attr "data-option-value" option.value,
    attr "aria-label" option.label, flag "hidden"]

/-- The inputs for the free texts that belong to choices. -/
def optionDetails (key : String) (options : List ChoiceOption) : List Markup :=
  options.zipIdx.flatMap fun (option, n) =>
    if option.requiresInput then optionDetail key n option else []

/-- The input of a choice. -/
def choiceInput (kind : String) (identity : List Attribute) (option : ChoiceOption) :
    List Markup :=
  elementLine "label" []
    [opening "input" (attr "type" kind :: (identity ++ [attr "value" option.value])),
      text (" " ++ option.label)]

/-- The inputs of a radio or checkbox question. -/
def choiceInputs (kind key : String) (options : List ChoiceOption) : List Markup :=
  block "div" [attr "class" "fc-options"]
      (options.zipIdx.flatMap fun (option, n) =>
        choiceInput kind [attr "id" (key ++ "-o" ++ natText n), attr "name" key] option)
    ++ optionDetails key options

/-- The entry of an option in a list to choose from. -/
def selectEntry (value label : String) : List Markup :=
  elementLine "option" [attr "value" value] [text label]

/-- The list of a dropdown question. -/
def selectInput (key : String) (options : List ChoiceOption) : List Markup :=
  block "select" [attr "id" key, attr "name" key]
      (selectEntry "" "Select..."
        ++ options.flatMap fun option => selectEntry option.value option.label)
    ++ optionDetails key options

/-- The inputs for one person of a question for several persons. -/
def personInputs (key : String) (options : List ChoiceOption) (person : String) (n : Nat) :
    List Markup :=
  line (opening "div" [attr "class" "fc-person", attr "data-role" person]
      :: element "span" [attr "class" "fc-role"] [text person])
    ++ options.flatMap (choiceInput "radio" [attr "name" (key ++ ":" ++ natText n)])
    ++ line [closing "div"]

/-- The inputs of a question for several persons. -/
def peopleInputs (question : Question) (key : String) : List Markup :=
  block "div" [attr "class" "fc-people"]
    (question.appliesTo.zipIdx.flatMap fun (person, n) =>
      personInputs key question.options person n)

/-- The attribute that tells which files are accepted. -/
def acceptAttributes (question : Question) : List Attribute :=
  ((question.validation.bind (·.accept)).map (attr "accept")).toList

/-- The label and the inputs of a question. -/
def questionInputs (question : Question) (key : String) : List Markup :=
  match question.answerType with
  | .displayText => elementLine "p" [attr "class" "fc-display"] [text question.text]
  | .text | .email | .tel | .date | .number =>
    inputLabel question key
      ++ inputLine [attr "type" question.answerType.name, attr "id" key, attr "name" key]
  | .textarea =>
    inputLabel question key
      ++ elementLine "textarea" [attr "id" key, attr "name" key, attr "rows" "3"] []
  | .dropdown => inputLabel question key ++ selectInput key question.options
  | .radio => groupLabel question ++ choiceInputs "radio" key question.options
  | .checkbox => groupLabel question ++ choiceInputs "checkbox" key question.options
  | .radioMultiPerson => groupLabel question ++ peopleInputs question key
  | .file =>
    inputLabel question key
      ++ inputLine ([attr "type" "file", attr "id" key, attr "name" key]
        ++ acceptAttributes question)

/-- The place where a wrong answer is reported. -/
def errorPlace (question : Question) (key : String) : List Markup :=
  if question.answerType.isAnswerable then
    elementLine "div"
      [attr "class" "fc-error", attr "data-error-for" key, attr "role" "alert", flag "hidden"] []
  else []

/-! ### Questions, instances and groups -/

/-- A question or sub-question with the given content between its inputs and its report. -/
def questionWith (question : Question) (key : String) (isSub : Bool) (content : List Markup) :
    List Markup :=
  block "div" (questionAttributes question key isSub)
    (questionInputs question key ++ content ++ errorPlace question key)

/-- The sub-questions of a question. -/
def subQuestions (question : Question) (key : String) : List Markup :=
  if question.subQuestions.isEmpty then []
  else
    block "div" [attr "class" "fc-subquestions"]
      (question.subQuestions.zipIdx.flatMap fun (sub, n) =>
        questionWith sub (subKey key n) true [])

/-- A question and its sub-questions. -/
def question (question : Question) (key : String) : List Markup :=
  questionWith question key false (subQuestions question key)

/-- The number of an instance and the button that removes it. -/
def instanceHeader (slot : InstanceSlot) : List Markup :=
  elementLine "div" [attr "class" "fc-instance-header"]
    (element "span" [attr "class" "fc-instance-number"] [text slot.number]
      ++ element "button" [attr "type" "button", attr "class" "fc-remove-instance"]
        [text "Remove"])

/-- An instance of a group. -/
def groupInstance (key : GroupKey) (group : Group) (slot : InstanceSlot) : List Markup :=
  block "div" [attr "class" "fc-instance", attr "data-instance" slot.label]
    ((if group.repeatable then instanceHeader slot else [])
      ++ group.questions.zipIdx.flatMap fun (entry, q) =>
        question entry (slotKey (key.question q) slot))

/-- What lets instances of a repeatable group be added. -/
def instanceAdder (key : GroupKey) (group : Group) (fidelity : InstanceFidelity) : List Markup :=
  elementLine "button"
      [attr "type" "button", attr "class" "fc-add-instance", attr "data-group-key" key.text]
      [text "Add another"]
    ++ match fidelity with
      | .genericText => []
      | .template =>
        block "template" [attr "data-instance-template" key.text]
          (groupInstance key group .placeholder)

/-- A group. -/
def group (fidelity : InstanceFidelity) (key : GroupKey) (group : Group) : List Markup :=
  block "div"
    [attr "class" "fc-group", attr "data-group-key" key.text,
      attr "data-repeatable" (boolText group.repeatable)]
    ((if group.title = "" then []
        else elementLine "h3" [attr "class" "fc-group-title"] [text group.title])
      ++ block "div" [attr "class" "fc-instances"] (groupInstance key group (.index 0))
      ++ if group.repeatable then instanceAdder key group fidelity else [])

/-- A section of a page. -/
def formSection (fidelity : InstanceFidelity) (p s : Nat) (part : Section) : List Markup :=
  block "fieldset" [attr "class" "fc-section", attr "data-section" (natText s)]
    (elementLine "legend" [] [text part.title]
      ++ part.groups.zipIdx.flatMap fun (entry, g) => group fidelity ⟨p, s, g⟩ entry)

/-- A page. -/
def page (fidelity : InstanceFidelity) (p : Nat) (page : Page) : List Markup :=
  block "section"
    [attr "class" "fc-page", attr "data-page" (natText p),
      attr "data-page-number" (natText page.pageNumber)]
    (elementLine "h2" [attr "class" "fc-page-title"] [text page.title]
      ++ page.sections.zipIdx.flatMap fun (part, s) => formSection fidelity p s part)

/-- All pages of a document. -/
def body (document : Document) (fidelity : InstanceFidelity) : List Markup :=
  document.pages.zipIdx.flatMap fun (entry, p) => page fidelity p entry

end Markup

/-- The text of the body of an exported document. -/
def Document.renderBody (document : Document) (fidelity : InstanceFidelity) : List Char :=
  Markup.render (Markup.body document fidelity)

end Questionnaire
