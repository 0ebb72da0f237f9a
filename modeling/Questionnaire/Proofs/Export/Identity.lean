import Questionnaire.Proofs.Export.Addresses
import Questionnaire.Proofs.Export.Nesting

/-! # The elements of an export have addresses of their own

The values of the attributes `id`, `for` and `data-field-key` in the body of a document are the
addresses that these attributes lead to, in that order (`Markup.values_body`). So they are read from
the exported page without repetition, and every label is for exactly one element
(`Document.addresses_renderBody`). -/

namespace Questionnaire

/-! ### The values in markup -/

/-- The values that a tag gives to the attributes of a name. -/
def Tag.values (name : String) : Tag → List String
  | .opening _ attributes =>
    attributes.filterMap fun item => if item.name = name then item.value else none
  | .closing _ => []

theorem Tag.values_opening_append (name tag : String) (first second : List Attribute) :
    (opening tag (first ++ second)).values name =
      (opening tag first).values name ++ (opening tag second).values name :=
  List.filterMap_append

/-- The values that some tags give to the attributes of a name. -/
def attributeValues (name : String) (tags : List Tag) : List String :=
  tags.flatMap (Tag.values name)

namespace Markup

/-- The values that the tags among some pieces give to the attributes of a name. -/
def values (name : String) (pieces : List Markup) : List String :=
  attributeValues name (tags pieces)

section Pieces

variable (name tag value : String) (attributes : List Attribute) (content pieces : List Markup)

@[simp] theorem values_nil : values name [] = [] := rfl

@[simp] theorem values_append :
    values name (content ++ pieces) = values name content ++ values name pieces := by
  simp [values, attributeValues]

@[simp] theorem values_opening_cons : values name (opening tag attributes :: pieces) =
    (Tag.opening tag attributes).values name ++ values name pieces := rfl

@[simp] theorem values_closing_cons :
    values name (closing tag :: pieces) = values name pieces := rfl

@[simp] theorem values_text_cons : values name (text value :: pieces) = values name pieces := rfl

@[simp] theorem values_lineBreak_cons : values name (lineBreak :: pieces) = values name pieces :=
  rfl

@[simp] theorem values_flatMap {α : Type} (items : List α) (write : α → List Markup) :
    values name (items.flatMap write) = items.flatMap fun item => values name (write item) := by
  induction items with
  | nil => rfl
  | cons item items ih => rw [List.flatMap_cons, values_append, ih, List.flatMap_cons]

@[simp] theorem values_line : values name (line pieces) = values name pieces := by
  simp [line]

@[simp] theorem values_element : values name (element tag attributes content) =
    (Tag.opening tag attributes).values name ++ values name content := by
  simp [element]

@[simp] theorem values_elementLine : values name (elementLine tag attributes content) =
    (Tag.opening tag attributes).values name ++ values name content := by
  simp [elementLine]

@[simp] theorem values_block : values name (block tag attributes content) =
    (Tag.opening tag attributes).values name ++ values name content := by
  simp [block]

@[simp] theorem values_inputLine :
    values name (inputLine attributes) = (Tag.opening "input" attributes).values name := by
  simp [inputLine]

end Pieces

/-! ### The addresses of a question -/

section Question

variable (kind : AddressAttribute) (question : Question) (key : String)

theorem values_inputLabel : values kind.name (inputLabel question key) =
    if kind = .target then [key] else [] := by
  cases kind <;> simp [inputLabel, requiredMark, Tag.values, AddressAttribute.name, attr,
    apply_ite (values _)]

theorem values_groupLabel : values kind.name (groupLabel question) = [] := by
  cases kind <;> simp [groupLabel, requiredMark, Tag.values, AddressAttribute.name, attr,
    apply_ite (values _)]

theorem values_optionDetails (options : List ChoiceOption) :
    values kind.name (optionDetails key options) =
      if kind = .id then options.zipIdx.flatMap fun (option, n) =>
        if option.requiresInput then [key ++ (ElementPart.detail n).text] else []
      else [] := by
  cases kind <;> simp [optionDetails, optionDetail, Tag.values, AddressAttribute.name, attr, flag,
    apply_ite (values _), ElementPart.text, ← optionDetailKey_eq]

theorem values_choiceInputs (tag : String) (options : List ChoiceOption) :
    values kind.name (choiceInputs tag key options) =
      (if kind = .id then options.zipIdx.flatMap fun (_, n) => [key ++ (ElementPart.choice n).text]
        else []) ++ values kind.name (optionDetails key options) := by
  cases kind <;> simp [choiceInputs, choiceInput, Tag.values, AddressAttribute.name, attr,
    ElementPart.text, String.append_assoc]

theorem values_selectInput (options : List ChoiceOption) :
    values kind.name (selectInput key options) =
      (if kind = .id then [key] else []) ++ values kind.name (optionDetails key options) := by
  cases kind <;> simp [selectInput, selectEntry, Tag.values, AddressAttribute.name, attr]

theorem values_peopleInputs : values kind.name (peopleInputs question key) = [] := by
  cases kind <;> simp [peopleInputs, personInputs, choiceInput, Tag.values, AddressAttribute.name,
    attr]

/-- The inputs of a question and its label have the addresses of its parts. -/
theorem values_questionInputs : values kind.name (questionInputs question key) =
    if kind = .fieldKey then [] else (kind.parts question).map (key ++ ·.text) := by
  have hinput (type : String) : (Tag.opening "input"
      [attr "type" type, attr "id" key, attr "name" key]).values kind.name =
        if kind = .id then [key] else [] := by
    cases kind <;> simp [Tag.values, AddressAttribute.name, attr]
  have hfile : (Tag.opening "input" ([attr "type" "file", attr "id" key, attr "name" key]
      ++ acceptAttributes question)).values kind.name = if kind = .id then [key] else [] := by
    have haccept : (Tag.opening "input" (acceptAttributes question)).values kind.name = [] := by
      refine List.filterMap_eq_nil_iff.2 fun item hitem => ?_
      obtain ⟨accept, -, rfl⟩ := Option.map_eq_some_iff.1 (Option.mem_toList.1 hitem)
      cases kind <;> rfl
    rw [Tag.values_opening_append, haccept, List.append_nil, hinput]
  have harea : (Tag.opening "textarea"
      [attr "id" key, attr "name" key, attr "rows" "3"]).values kind.name =
        if kind = .id then [key] else [] := by
    cases kind <;> simp [Tag.values, AddressAttribute.name, attr]
  have hdisplay : (Tag.opening "p" [attr "class" "fc-display"]).values kind.name = [] := by
    cases kind <;> rfl
  unfold questionInputs
  cases hkind : question.answerType <;>
    simp only [values_append, values_inputLine, values_elementLine, values_nil, values_text_cons,
      values_inputLabel, values_groupLabel, values_choiceInputs, values_selectInput,
      values_peopleInputs, values_optionDetails, hinput, hfile, harea, hdisplay] <;>
    cases kind <;>
      simp [AddressAttribute.parts, Question.fieldParts, Question.choiceParts,
        Question.detailParts, hkind, AnswerType.hasLabelledInput, List.map_flatMap,
        apply_ite (List.map _), ElementPart.text]

theorem values_questionAttributes (isSub : Bool) :
    (Tag.opening "div" (questionAttributes question key isSub)).values kind.name =
      if kind = .fieldKey then [key] else [] := by
  have hparent :
      (Tag.opening "div" (parentAttributes question isSub)).values kind.name = [] := by
    unfold parentAttributes
    cases question.parent with
    | none => rfl
    | some parent => cases isSub <;> cases question.showWhen <;> cases kind <;> rfl
  have hvalidation :
      (Tag.opening "div" (validationAttributes question)).values kind.name = [] := by
    unfold validationAttributes
    cases question.validation with
    | none => rfl
    | some spec =>
        dsimp only
        split
        · rfl
        · cases kind <;> rfl
  have hpersons : (Tag.opening "div" (personAttributes question)).values kind.name = [] := by
    unfold personAttributes
    split
    · cases kind <;> rfl
    · rfl
  simp only [questionAttributes, Tag.values_opening_append, hparent, hvalidation, hpersons,
    List.append_nil]
  cases kind <;> simp [Tag.values, AddressAttribute.name, attr]

theorem values_errorPlace : values kind.name (errorPlace question key) = [] := by
  cases kind <;> simp [errorPlace, Tag.values, AddressAttribute.name, attr, flag,
    apply_ite (values _)]

theorem values_questionWith (isSub : Bool) (content : List Markup) :
    values kind.name (questionWith question key isSub content) =
      (kind.parts question).map (key ++ ·.text) ++ values kind.name content := by
  simp only [questionWith, values_block, values_append, values_questionAttributes,
    values_questionInputs, values_errorPlace, List.append_nil]
  cases kind <;> simp [AddressAttribute.parts, ElementPart.text]

/-- The elements of a question have its addresses. -/
theorem values_question (coords : QuestionCoords) (slot : InstanceSlot) :
    values kind.name (Markup.question question (slotKey coords slot)) =
      (kind.questionAddresses coords slot question).map ElementAddress.text := by
  have hsubs : values kind.name (subQuestions question (slotKey coords slot)) =
      question.subQuestions.zipIdx.flatMap fun entry =>
        (kind.parts entry.1).map (subKey (slotKey coords slot) entry.2 ++ ·.text) := by
    unfold subQuestions
    split
    · rename_i hempty
      rw [List.isEmpty_iff.1 hempty]
      rfl
    · have hframe : (Tag.opening "div" [attr "class" "fc-subquestions"]).values kind.name = [] := by
        cases kind <;> rfl
      simp [values_questionWith, hframe]
  simp [Markup.question, values_questionWith, hsubs, AddressAttribute.questionAddresses,
    ElementAddress.text, List.map_flatMap, subKey, String.append_assoc, Function.comp_def]

end Question

/-! ### The addresses of a document -/

section Document

variable (kind : AddressAttribute) (fidelity : InstanceFidelity)

theorem values_groupInstance (key : GroupKey) (group : Group) (slot : InstanceSlot) :
    values kind.name (groupInstance key group slot) =
      ((Document.questionsAt key group).flatMap fun (coords, question) =>
        kind.questionAddresses coords slot question).map ElementAddress.text := by
  have hheader : values kind.name (instanceHeader slot) = [] := by
    cases kind <;> simp [instanceHeader, Tag.values, AddressAttribute.name, attr]
  have hframe : (Tag.opening "div"
      [attr "class" "fc-instance", attr "data-instance" slot.label]).values kind.name = [] := by
    cases kind <;> rfl
  simp [groupInstance, hheader, hframe, apply_ite (values _), values_question,
    Document.questionsAt, List.flatMap_map, List.map_flatMap]

theorem values_group (key : GroupKey) (group : Group) :
    values kind.name (Markup.group fidelity key group) =
      ((group.slots fidelity).flatMap fun slot =>
        (Document.questionsAt key group).flatMap fun (coords, question) =>
          kind.questionAddresses coords slot question).map ElementAddress.text := by
  have htitle : values kind.name (if group.title = "" then []
      else elementLine "h3" [attr "class" "fc-group-title"] [text group.title]) = [] := by
    split
    · rfl
    · cases kind <;> rfl
  have hframe : (Tag.opening "div" [attr "class" "fc-group", attr "data-group-key" key.text,
      attr "data-repeatable" (boolText group.repeatable)]).values kind.name = [] := by
    cases kind <;> rfl
  have hinstances : (Tag.opening "div" [attr "class" "fc-instances"]).values kind.name = [] := by
    cases kind <;> rfl
  have hbutton : values kind.name (elementLine "button"
      [attr "type" "button", attr "class" "fc-add-instance", attr "data-group-key" key.text]
      [text "Add another"]) = [] := by
    cases kind <;> rfl
  have htemplate :
      (Tag.opening "template" [attr "data-instance-template" key.text]).values kind.name = [] := by
    cases kind <;> rfl
  have hadder : values kind.name
      (if group.repeatable then instanceAdder key group fidelity else []) =
        if group.repeatable ∧ fidelity = .template then
          values kind.name (groupInstance key group .placeholder) else [] := by
    cases group.repeatable <;> cases fidelity <;> simp [instanceAdder, hbutton, htemplate]
  rw [Markup.group, values_block, hframe, List.nil_append, values_append, values_append, htitle,
    List.nil_append, values_block, hinstances, List.nil_append, hadder, Group.slots,
    List.flatMap_cons, List.map_append, values_groupInstance]
  split <;> simp [values_groupInstance]

theorem values_formSection (p s : Nat) (part : Section) :
    values kind.name (formSection fidelity p s part) =
      part.groups.zipIdx.flatMap fun (entry, g) =>
        values kind.name (Markup.group fidelity ⟨p, s, g⟩ entry) := by
  have hlegend : values kind.name (elementLine "legend" [] [text part.title]) = [] := by
    cases kind <;> rfl
  have hframe : (Tag.opening "fieldset"
      [attr "class" "fc-section", attr "data-section" (natText s)]).values kind.name = [] := by
    cases kind <;> rfl
  simp only [formSection, values_block, values_append, hlegend, hframe, List.nil_append,
    values_flatMap]

theorem values_page (p : Nat) (page : Page) :
    values kind.name (Markup.page fidelity p page) =
      page.sections.zipIdx.flatMap fun (part, s) =>
        values kind.name (formSection fidelity p s part) := by
  have htitle : values kind.name
      (elementLine "h2" [attr "class" "fc-page-title"] [text page.title]) = [] := by
    cases kind <;> rfl
  have hframe : (Tag.opening "section" [attr "class" "fc-page", attr "data-page" (natText p),
      attr "data-page-number" (natText page.pageNumber)]).values kind.name = [] := by
    cases kind <;> rfl
  simp only [Markup.page, values_block, values_append, htitle, hframe, List.nil_append,
    values_flatMap]

/-- The elements on the page of a document have its addresses. -/
theorem values_body (document : Document) : values kind.name (body document fidelity) =
    (kind.addresses fidelity document).map ElementAddress.text := by
  simp only [body, values_flatMap, values_page, values_formSection, values_group,
    AddressAttribute.addresses, Document.groups, List.flatMap_assoc, List.flatMap_map,
    List.map_flatMap]

end Document

end Markup

namespace Document

/-- What a label is for has an address of its own. -/
theorem addresses_target_subset (document : Document) (fidelity : InstanceFidelity) :
    AddressAttribute.target.addresses fidelity document ⊆
      AddressAttribute.id.addresses fidelity document := by
  have hparts {question : Question} {part : ElementPart}
      (h : part ∈ AddressAttribute.target.parts question) :
      part ∈ AddressAttribute.id.parts question :=
    List.mem_append_left _ (List.mem_append_left _ h)
  intro address haddress
  simp only [AddressAttribute.addresses, AddressAttribute.questionAddresses, List.mem_flatMap,
    List.mem_append, List.mem_map] at haddress ⊢
  obtain ⟨entry, hentry, slot, hslot, question, hquestion, hown | hsub⟩ := haddress
  · obtain ⟨part, hpart, rfl⟩ := hown
    exact ⟨entry, hentry, slot, hslot, question, hquestion, .inl ⟨part, hparts hpart, rfl⟩⟩
  · obtain ⟨sub, hsub, part, hpart, rfl⟩ := hsub
    exact ⟨entry, hentry, slot, hslot, question, hquestion,
      .inr ⟨sub, hsub, part, hparts hpart, rfl⟩⟩

/-- **The elements of an exported page have addresses of their own.** No identifier stands twice on
it, and no field key does; every label is for exactly one element. -/
theorem addresses_renderBody (document : Document) (fidelity : InstanceFidelity) :
    ∃ tags, Markup.readTags .between (document.renderBody fidelity) = some tags ∧
      (attributeValues "id" tags).Nodup ∧ (attributeValues "data-field-key" tags).Nodup ∧
      ∀ target ∈ attributeValues "for" tags, (attributeValues "id" tags).count target = 1 := by
  have hvalues (kind : AddressAttribute) :
      attributeValues kind.name (Markup.tags (Markup.body document fidelity)) =
        (kind.addresses fidelity document).map ElementAddress.text :=
    Markup.values_body kind fidelity document
  have hnodup (kind : AddressAttribute) :
      (attributeValues kind.name (Markup.tags (Markup.body document fidelity))).Nodup := by
    rw [hvalues]
    exact (kind.nodup_addresses fidelity document).map ElementAddress.text_injective
  refine ⟨_, document.readTags_renderBody fidelity, hnodup .id, hnodup .fieldKey, ?_⟩
  intro target htarget
  refine List.count_eq_one_of_mem (hnodup .id) ?_
  have hmem := (hvalues .target) ▸ htarget
  obtain ⟨address, haddress, rfl⟩ := List.mem_map.1 hmem
  rw [show "id" = AddressAttribute.id.name from rfl, hvalues]
  exact List.mem_map_of_mem (document.addresses_target_subset fidelity haddress)

end Document

end Questionnaire
