import Questionnaire.Export.Body
import Questionnaire.Proofs.Export.Markup

/-! # Texts do not change the markup of an export

Erasing a document blanks every text in it and leaves its shape: what there is, of what kind and
with which flags, numbers and optional parts (`Document.erased`). Markup is erased likewise, and the
delimiters of tags and values stay (`Markup.filter_render_map_erased`). The body of a document and
that of the erased one are made of the same erased pieces (`Markup.map_erased_body`), so that the
delimiters in it depend on the shape alone (`Document.SameShape.filter_renderBody`). -/

namespace Questionnaire

/-! ### Erased documents -/

/-- The option without its texts. -/
def ChoiceOption.erased (option : ChoiceOption) : ChoiceOption :=
  ⟨"", "", option.requiresInput, option.inputType.map fun _ => ""⟩

@[simp] theorem ChoiceOption.requiresInput_erased (option : ChoiceOption) :
    option.erased.requiresInput = option.requiresInput := by
  cases option; rfl

/-- The rules without their texts. -/
def ValidationSpec.erased (spec : ValidationSpec) : ValidationSpec :=
  { spec with
    pattern := spec.pattern.map fun _ => ""
    errorMessage := spec.errorMessage.map fun _ => ""
    accept := spec.accept.map fun _ => "" }

namespace Question

mutual

/-- The question without its texts. -/
def erased : Question → Question
  | ⟨_, _, answerType, required, options, validation, parent, showWhen, subQuestions, appliesTo⟩ =>
    { id := "", text := "", answerType, required
      options := options.map ChoiceOption.erased
      validation := validation.map ValidationSpec.erased
      parent := parent.map fun _ => ""
      showWhen := showWhen.map fun _ => .one ""
      subQuestions := erasedAll subQuestions
      appliesTo := appliesTo.map fun _ => "" }

/-- Some questions without their texts. -/
def erasedAll : List Question → List Question
  | [] => []
  | question :: rest => question.erased :: erasedAll rest

end

end Question

/-- The group without its texts; whether it has a title is part of its shape. -/
def Group.erased (group : Group) : Group :=
  { group with
    title := if group.title = "" then "" else "-"
    questions := group.questions.map Question.erased }

@[simp] theorem Group.repeatable_erased (group : Group) :
    group.erased.repeatable = group.repeatable := by
  cases group; rfl

@[simp] theorem Group.questions_erased (group : Group) :
    group.erased.questions = group.questions.map Question.erased := rfl

@[simp] theorem Group.title_erased_eq_empty_iff (group : Group) :
    group.erased.title = "" ↔ group.title = "" := by
  simp [erased]

/-- The section without its texts. -/
def Section.erased (part : Section) : Section := ⟨"", part.groups.map Group.erased⟩

/-- The page without its texts. -/
def Page.erased (page : Page) : Page := ⟨"", page.pageNumber, page.sections.map Section.erased⟩

namespace Document

/-- The document without its texts. -/
def erased (document : Document) : Document := ⟨"", document.pages.map Page.erased⟩

/-- The documents differ in nothing but the contents of their texts. -/
def SameShape (document other : Document) : Prop := document.erased = other.erased

end Document

namespace Question

theorem erasedAll_eq_map (questions : List Question) :
    erasedAll questions = questions.map erased := by
  induction questions with
  | nil => rfl
  | cons question rest ih => rw [erasedAll, ih, List.map_cons]

section Fields

variable (question : Question)

@[simp] theorem answerType_erased :
    question.erased.answerType = question.answerType := by
  cases question; rfl

@[simp] theorem required_erased :
    question.erased.required = question.required := by
  cases question; rfl

@[simp] theorem options_erased :
    question.erased.options = question.options.map ChoiceOption.erased := by
  cases question; rfl

@[simp] theorem validation_erased :
    question.erased.validation = question.validation.map ValidationSpec.erased := by
  cases question; rfl

@[simp] theorem parent_erased :
    question.erased.parent = question.parent.map fun _ => "" := by
  cases question; rfl

@[simp] theorem showWhen_erased :
    question.erased.showWhen = question.showWhen.map fun _ => .one "" := by
  cases question; rfl

@[simp] theorem subQuestions_erased :
    question.erased.subQuestions = question.subQuestions.map erased := by
  cases question; exact erasedAll_eq_map _

@[simp] theorem appliesTo_erased :
    question.erased.appliesTo = question.appliesTo.map fun _ => "" := by
  cases question; rfl

end Fields

end Question

theorem ValidationSpec.isEmpty_erased (spec : ValidationSpec) :
    spec.erased.isEmpty = spec.isEmpty := by
  simp only [isEmpty, erased, empty]
  cases spec
  simp

/-! ### Erased markup -/

/-- The attribute without its value. -/
def Attribute.erased (item : Attribute) : Attribute :=
  { item with value := item.value.map fun _ => "" }

@[simp] theorem Attribute.erased_attr (name value : String) :
    (attr name value).erased = attr name "" := rfl

@[simp] theorem Attribute.erased_flag (name : String) : (flag name).erased = flag name := rfl

/-- An escaped text delimits nothing. -/
theorem filter_escapeHtmlChars (text : String) : (escapeHtmlChars text).filter isDelimiter = [] :=
  List.filter_eq_nil_iff.2 fun _ hd => by
    rw [isDelimiter_of_mem_escapeHtmlChars hd]
    exact Bool.false_ne_true

theorem Attribute.filter_chars_erased (item : Attribute) :
    item.erased.chars.filter isDelimiter = item.chars.filter isDelimiter := by
  obtain ⟨name, value⟩ := item
  cases value with
  | none => rfl
  | some value =>
      simp [chars, erased, List.filter_append, filter_escapeHtmlChars, List.filter_cons]

namespace Markup

/-- The piece without its text and without the values of its attributes. -/
def erased : Markup → Markup
  | opening tag attributes => opening tag (attributes.map Attribute.erased)
  | text _ => text ""
  | piece => piece

theorem filter_chars_erased (piece : Markup) :
    piece.erased.chars.filter isDelimiter = piece.chars.filter isDelimiter := by
  cases piece with
  | opening tag attributes =>
      have hattributes : ((attributes.map Attribute.erased).flatMap Attribute.chars).filter
          isDelimiter = (attributes.flatMap Attribute.chars).filter isDelimiter := by
        rw [List.flatMap_map, List.filter_flatMap, List.filter_flatMap]
        exact List.flatMap_congr fun item _ => item.filter_chars_erased
      simp only [erased, chars, List.filter_cons, List.filter_append, hattributes]
  | text value => rw [erased, chars, chars, filter_escapeHtmlChars, filter_escapeHtmlChars]
  | closing tag => rfl
  | lineBreak => rfl

/-- Erasing pieces leaves the delimiters in them. -/
theorem filter_render_map_erased (pieces : List Markup) :
    (render (pieces.map erased)).filter isDelimiter = (render pieces).filter isDelimiter := by
  rw [render, render, List.flatMap_map, List.filter_flatMap, List.filter_flatMap]
  exact List.flatMap_congr fun piece _ => piece.filter_chars_erased

section Pieces

variable (tag : String) (attributes : List Attribute) (content pieces : List Markup)

@[simp] theorem erased_opening :
    (opening tag attributes).erased = opening tag (attributes.map Attribute.erased) := rfl

@[simp] theorem erased_closing : (closing tag).erased = closing tag := rfl

@[simp] theorem erased_text (value : String) : (text value).erased = text "" := rfl

@[simp] theorem erased_lineBreak : lineBreak.erased = lineBreak := rfl

@[simp] theorem map_erased_line : (line pieces).map erased = line (pieces.map erased) := by
  simp [line]

@[simp] theorem map_erased_element : (element tag attributes content).map erased =
    element tag (attributes.map Attribute.erased) (content.map erased) := by
  simp [element]

@[simp] theorem map_erased_block : (block tag attributes content).map erased =
    block tag (attributes.map Attribute.erased) (content.map erased) := by
  simp [block]

@[simp] theorem map_erased_elementLine : (elementLine tag attributes content).map erased =
    elementLine tag (attributes.map Attribute.erased) (content.map erased) := by
  simp [elementLine]

@[simp] theorem map_erased_inputLine :
    (inputLine attributes).map erased = inputLine (attributes.map Attribute.erased) := by
  simp [inputLine]

end Pieces

/-! ### The pieces of an erased question -/

section Question

variable (question : Question) (key : String)

theorem map_erased_questionAttributes (isSub : Bool) :
    (questionAttributes question.erased key isSub).map Attribute.erased =
      (questionAttributes question key isSub).map Attribute.erased := by
  have hparent : (parentAttributes question.erased isSub).map Attribute.erased =
      (parentAttributes question isSub).map Attribute.erased := by
    simp only [parentAttributes, question.parent_erased, question.showWhen_erased]
    cases question.parent <;> cases question.showWhen <;> cases isSub <;> rfl
  have hvalidation : (validationAttributes question.erased).map Attribute.erased =
      (validationAttributes question).map Attribute.erased := by
    simp only [validationAttributes, question.validation_erased]
    cases question.validation with
    | none => rfl
    | some spec =>
        simp only [Option.map_some, spec.isEmpty_erased]
        split <;> rfl
  have hpersons : (personAttributes question.erased).map Attribute.erased =
      (personAttributes question).map Attribute.erased := by
    simp only [personAttributes, question.answerType_erased]
    split <;> rfl
  simp [questionAttributes, hparent, hvalidation, hpersons]

theorem map_erased_inputLabel :
    (inputLabel question.erased key).map erased = (inputLabel question key).map erased := by
  simp [inputLabel, requiredMark]

theorem map_erased_groupLabel :
    (groupLabel question.erased).map erased = (groupLabel question).map erased := by
  simp [groupLabel, requiredMark]

theorem map_erased_optionDetails (options : List ChoiceOption) :
    (optionDetails key (options.map ChoiceOption.erased)).map erased =
      (optionDetails key options).map erased := by
  have hdetail (n : Nat) (option : ChoiceOption) :
      (optionDetail key n option.erased).map erased = (optionDetail key n option).map erased := by
    simp [optionDetail]
  simp [optionDetails, List.zipIdx_map, List.flatMap_map, List.map_flatMap, hdetail,
    apply_ite (List.map erased)]

theorem map_erased_choiceInput (kind : String) (identity : List Attribute) (option : ChoiceOption) :
    (choiceInput kind identity option.erased).map erased =
      (choiceInput kind identity option).map erased := by
  simp [choiceInput]

theorem map_erased_choiceInputs (kind : String) (options : List ChoiceOption) :
    (choiceInputs kind key (options.map ChoiceOption.erased)).map erased =
      (choiceInputs kind key options).map erased := by
  simp [choiceInputs, List.zipIdx_map, List.flatMap_map, List.map_flatMap, map_erased_choiceInput,
    map_erased_optionDetails]

theorem map_erased_selectInput (options : List ChoiceOption) :
    (selectInput key (options.map ChoiceOption.erased)).map erased =
      (selectInput key options).map erased := by
  simp [selectInput, selectEntry, List.flatMap_map, List.map_flatMap, map_erased_optionDetails]

theorem map_erased_peopleInputs :
    (peopleInputs question.erased key).map erased = (peopleInputs question key).map erased := by
  have hperson (person : String) (n : Nat) :
      (personInputs key (question.options.map ChoiceOption.erased) "" n).map erased =
        (personInputs key question.options person n).map erased := by
    simp [personInputs, List.flatMap_map, List.map_flatMap, map_erased_choiceInput]
  simp only [peopleInputs, question.options_erased, question.appliesTo_erased, map_erased_block,
    List.zipIdx_map, List.flatMap_map, List.map_flatMap, Prod.map]
  exact congrArg _ (List.flatMap_congr fun entry _ => hperson entry.1 entry.2)

theorem map_erased_acceptAttributes :
    (acceptAttributes question.erased).map Attribute.erased =
      (acceptAttributes question).map Attribute.erased := by
  rw [acceptAttributes, acceptAttributes, question.validation_erased]
  cases question.validation with
  | none => rfl
  | some spec => cases haccept : spec.accept <;> simp [ValidationSpec.erased, haccept]

theorem map_erased_questionInputs :
    (questionInputs question.erased key).map erased = (questionInputs question key).map erased := by
  simp only [questionInputs, question.answerType_erased, question.options_erased]
  cases question.answerType <;> simp [map_erased_inputLabel, map_erased_groupLabel,
    map_erased_selectInput, map_erased_choiceInputs, map_erased_peopleInputs,
    map_erased_acceptAttributes]

theorem map_erased_questionWith (isSub : Bool) (content : List Markup) :
    (questionWith question.erased key isSub content).map erased =
      (questionWith question key isSub content).map erased := by
  simp [questionWith, errorPlace, map_erased_questionAttributes, map_erased_questionInputs]

theorem map_erased_subQuestions :
    (subQuestions question.erased key).map erased = (subQuestions question key).map erased := by
  simp only [subQuestions, question.subQuestions_erased, List.isEmpty_map]
  split
  · rfl
  · simp [List.zipIdx_map, List.flatMap_map, List.map_flatMap, map_erased_questionWith]

theorem map_erased_question :
    (Markup.question question.erased key).map erased =
      (Markup.question question key).map erased := by
  simp only [Markup.question, map_erased_questionWith]
  simp only [questionWith, map_erased_block, List.map_append, map_erased_subQuestions]

end Question

/-! ### The pieces of an erased document -/

theorem map_erased_groupInstance (key : GroupKey) (group : Group) (slot : InstanceSlot) :
    (groupInstance key group.erased slot).map erased =
      (groupInstance key group slot).map erased := by
  simp [groupInstance, List.zipIdx_map, List.flatMap_map, List.map_flatMap,
    map_erased_question]

theorem map_erased_group (fidelity : InstanceFidelity) (key : GroupKey) (group : Group) :
    (Markup.group fidelity key group.erased).map erased =
      (Markup.group fidelity key group).map erased := by
  have hadder : (instanceAdder key group.erased fidelity).map erased =
      (instanceAdder key group fidelity).map erased := by
    cases fidelity <;> simp [instanceAdder, map_erased_groupInstance]
  simp [Markup.group, hadder, map_erased_groupInstance, apply_ite (List.map erased)]

theorem map_erased_formSection (fidelity : InstanceFidelity) (p s : Nat) (part : Section) :
    (formSection fidelity p s part.erased).map erased =
      (formSection fidelity p s part).map erased := by
  simp [formSection, Section.erased, List.zipIdx_map, List.flatMap_map, List.map_flatMap,
    map_erased_group]

theorem map_erased_page (fidelity : InstanceFidelity) (p : Nat) (page : Page) :
    (Markup.page fidelity p page.erased).map erased =
      (Markup.page fidelity p page).map erased := by
  simp [Markup.page, Page.erased, List.zipIdx_map, List.flatMap_map, List.map_flatMap,
    map_erased_formSection]

/-- A document and the erased one are written in the same pieces, but for their texts. -/
theorem map_erased_body (document : Document) (fidelity : InstanceFidelity) :
    (body document.erased fidelity).map erased = (body document fidelity).map erased := by
  simp [body, Document.erased, List.zipIdx_map, List.flatMap_map, List.map_flatMap,
    map_erased_page]

end Markup

namespace Document

/-- Erasing a document leaves the delimiters in its body. -/
theorem filter_renderBody_erased (document : Document) (fidelity : InstanceFidelity) :
    (document.erased.renderBody fidelity).filter isDelimiter =
      (document.renderBody fidelity).filter isDelimiter := by
  rw [renderBody, renderBody, ← Markup.filter_render_map_erased, Markup.map_erased_body,
    Markup.filter_render_map_erased]

/-- **Texts do not change the markup of an export**: documents of the same shape have the same
delimiters of tags and values in their bodies, in the same order. -/
theorem SameShape.filter_renderBody {document other : Document} (h : document.SameShape other)
    (fidelity : InstanceFidelity) : (document.renderBody fidelity).filter isDelimiter =
      (other.renderBody fidelity).filter isDelimiter := by
  rw [← filter_renderBody_erased, h, filter_renderBody_erased]

/-- Questions with a text wherever one can be given. -/
def inscribedQuestions (text : String) : List Question := [
  { Question.blank with
    id := text, text, answerType := .dropdown, options := [⟨text, text, true, some text⟩]
    validation := some { ValidationSpec.empty with
      pattern := some text, errorMessage := some text }
    parent := some text, showWhen := some (.any [text])
    subQuestions := [{ Question.blank with
      id := text, text, answerType := .radioMultiPerson, options := [.plain text]
      appliesTo := [text] }] },
  { Question.blank with
    id := text, text, answerType := .file
    validation := some { ValidationSpec.empty with accept := some text } }]

/-- A form with a text wherever one can be given. -/
def inscribed (text : String) : Document :=
  ⟨text, [⟨text, 1, [⟨text, [⟨text, true, inscribedQuestions text⟩]⟩]⟩]⟩

theorem sameShape_inscribed {text other : String} (h : text = "" ↔ other = "") :
    (inscribed text).SameShape (inscribed other) := by
  have hquestions : (inscribedQuestions text).map Question.erased =
      (inscribedQuestions other).map Question.erased := rfl
  simp [SameShape, inscribed, erased, Page.erased, Section.erased, Group.erased, h, hquestions]

/-- A text made of delimiters is as harmless as any other. -/
theorem SameShape.filter_renderBody_inscribed :
    (inscribed "Pets").SameShape (inscribed "\"><script>alert('Pets')</script>") ∧
      ((inscribed "Pets").renderBody .template).filter isDelimiter =
        ((inscribed "\"><script>alert('Pets')</script>").renderBody .template).filter
          isDelimiter := by
  have hshape : (inscribed "Pets").SameShape (inscribed "\"><script>alert('Pets')</script>") :=
    sameShape_inscribed (by decide)
  exact ⟨hshape, hshape.filter_renderBody .template⟩

end Document

end Questionnaire
