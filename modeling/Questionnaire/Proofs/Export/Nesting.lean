import Questionnaire.Proofs.Export.Rule
import Questionnaire.Proofs.Export.Tags

/-! # The tags of an export nest

`openAfter` follows the tags of a page and keeps the names of the elements that are open. Pieces are
well formed if their names are plain and they leave the open elements as they are, whichever these
are (`Markup.WellFormed`); this is kept by everything that markup is put together with, so it holds
of the body of every document (`Markup.wellFormed_body`). Therefore the tags that are read from an
exported page nest (`Document.openAfter_renderBody`). -/

namespace Questionnaire

/-- Whether a tag belongs to an element without content, which is never closed. -/
def Tag.isVoid : Tag → Bool
  | .opening name _ => name == "input"
  | .closing _ => false

/-- The elements that are open after some tags, the innermost first; none if a tag closes anything
but the innermost. -/
def openAfter : List String → List Tag → Option (List String)
  | opened, [] => some opened
  | opened, .opening name _ :: rest => openAfter (name :: opened) rest
  | [], .closing _ :: _ => none
  | innermost :: opened, .closing name :: rest =>
    if name = innermost then openAfter opened rest else none

/-- The tags leave the open elements as they are. -/
def Nests (tags : List Tag) : Prop :=
  ∀ opened rest, openAfter opened (tags ++ rest) = openAfter opened rest

theorem Nests.append {first second : List Tag} (h : Nests first) (h' : Nests second) :
    Nests (first ++ second) := by
  intro opened rest
  rw [List.append_assoc, h, h']

/-- Tags that nest do so within an element. -/
theorem Nests.element {tags : List Tag} (h : Nests tags) (name : String)
    (attributes : List Attribute) :
    Nests (.opening name attributes :: (tags ++ [.closing name])) := by
  intro opened rest
  rw [List.cons_append, List.append_assoc, openAfter, h]
  exact if_pos rfl

namespace Markup

/-- The pieces have plain names, and their tags, but for those of void elements, nest. -/
structure WellFormed (pieces : List Markup) : Prop where
  plain : ∀ piece ∈ pieces, piece.isPlain = true
  nests : Nests ((tags pieces).filter (!·.isVoid))

namespace WellFormed

variable {pieces content : List Markup} {tag : String} {attributes : List Attribute}

theorem nil : WellFormed [] := ⟨fun _ h => absurd h List.not_mem_nil, fun _ _ => rfl⟩

theorem append {first second : List Markup} (h : WellFormed first) (h' : WellFormed second) :
    WellFormed (first ++ second) := by
  refine ⟨fun piece hpiece => ?_, ?_⟩
  · rcases List.mem_append.1 hpiece with hpiece | hpiece
    · exact h.plain piece hpiece
    · exact h'.plain piece hpiece
  · rw [tags_append, List.filter_append]
    exact h.nests.append h'.nests

theorem flatMap {α : Type} {items : List α} {write : α → List Markup}
    (h : ∀ item ∈ items, WellFormed (write item)) : WellFormed (items.flatMap write) := by
  induction items with
  | nil => exact nil
  | cons item items ih =>
      obtain ⟨hitem, hitems⟩ := List.forall_mem_cons.1 h
      exact hitem.append (ih hitems)

theorem ite {condition : Prop} [Decidable condition] {first second : List Markup}
    (h : WellFormed first) (h' : WellFormed second) :
    WellFormed (if condition then first else second) := by
  split
  · exact h
  · exact h'

theorem text (value : String) : WellFormed [.text value] :=
  ⟨fun _ h => List.mem_singleton.1 h ▸ rfl, fun _ _ => rfl⟩

theorem lineBreak : WellFormed [.lineBreak] :=
  ⟨fun _ h => List.mem_singleton.1 h ▸ rfl, fun _ _ => rfl⟩

theorem void (h : (opening "input" attributes).isPlain = true) :
    WellFormed [opening "input" attributes] :=
  ⟨fun _ hpiece => List.mem_singleton.1 hpiece ▸ h, fun _ _ => rfl⟩

theorem element (hopening : (opening tag attributes).isPlain = true) (hvoid : tag ≠ "input")
    (h : WellFormed content) : WellFormed (element tag attributes content) := by
  have hname : isTagName tag = true := (Bool.and_eq_true_iff.1 hopening).1
  refine ⟨fun piece hpiece => ?_, ?_⟩
  · rcases List.mem_cons.1 hpiece with rfl | hpiece
    · exact hopening
    · rcases List.mem_append.1 hpiece with hpiece | hpiece
      · exact h.plain piece hpiece
      · exact List.mem_singleton.1 hpiece ▸ hname
  · have htags : (tags (Markup.element tag attributes content)).filter (!·.isVoid) =
        .opening tag attributes :: ((tags content).filter (!·.isVoid) ++ [.closing tag]) := by
      simp [Markup.element, tags, tag?, Tag.isVoid, hvoid]
    rw [htags]
    exact h.nests.element tag attributes

theorem line (h : WellFormed pieces) : WellFormed (line pieces) := h.append lineBreak

theorem elementLine (hopening : (opening tag attributes).isPlain = true) (hvoid : tag ≠ "input")
    (h : WellFormed content) : WellFormed (elementLine tag attributes content) :=
  (h.element hopening hvoid).line

theorem block (hopening : (opening tag attributes).isPlain = true) (hvoid : tag ≠ "input")
    (h : WellFormed content) : WellFormed (block tag attributes content) := by
  have hblock : Markup.block tag attributes content =
      Markup.elementLine tag attributes (.lineBreak :: content) := by
    simp [Markup.block, Markup.elementLine, Markup.line, Markup.element]
  rw [hblock]
  exact (lineBreak.append h).elementLine hopening hvoid

theorem inputLine (h : (opening "input" attributes).isPlain = true) :
    WellFormed (inputLine attributes) := (void h).line

end WellFormed

/-! ### The pieces of a question -/

section Question

variable (question : Question) (key : String)

theorem wellFormed_requiredMark : WellFormed (requiredMark question) :=
  .ite (.element (by simp [isPlain, isTagName, attr]) (by decide) (.text _)) .nil

theorem wellFormed_inputLabel : WellFormed (inputLabel question key) :=
  .elementLine (by simp [isPlain, isTagName, attr]) (by decide)
    ((WellFormed.text _).append (wellFormed_requiredMark question))

theorem wellFormed_groupLabel : WellFormed (groupLabel question) :=
  .elementLine (by simp [isPlain, isTagName, attr]) (by decide)
    ((WellFormed.text _).append (wellFormed_requiredMark question))

theorem wellFormed_optionDetails (options : List ChoiceOption) :
    WellFormed (optionDetails key options) :=
  .flatMap fun _ _ => .ite (.inputLine (by simp [isPlain, isTagName, attr, flag])) .nil

theorem wellFormed_choiceInput (kind : String) {identity : List Attribute}
    (h : identity.all (isTagName ·.name) = true) (option : ChoiceOption) :
    WellFormed (choiceInput kind identity option) := by
  have hinput : (opening "input"
      (attr "type" kind :: (identity ++ [attr "value" option.value]))).isPlain = true := by
    simp only [isPlain, List.all_cons, List.all_append, h]
    simp [isTagName, attr]
  exact .elementLine (by simp [isPlain, isTagName]) (by decide)
    ((WellFormed.void hinput).append (.text _))

theorem wellFormed_choiceInputs (kind : String) (options : List ChoiceOption) :
    WellFormed (choiceInputs kind key options) := by
  have hchoices : ∀ entry ∈ options.zipIdx, WellFormed (choiceInput kind
      [attr "id" (key ++ "-o" ++ natText entry.2), attr "name" key] entry.1) :=
    fun _ _ => wellFormed_choiceInput kind (by simp [isTagName, attr]) _
  exact .append (.block (by simp [isPlain, isTagName, attr]) (by decide) (.flatMap hchoices))
    (wellFormed_optionDetails key options)

theorem wellFormed_selectInput (options : List ChoiceOption) :
    WellFormed (selectInput key options) := by
  have hentry (value label : String) : WellFormed (selectEntry value label) :=
    .elementLine (by simp [isPlain, isTagName, attr]) (by decide) (.text _)
  have hoptions : WellFormed
      (options.flatMap fun option => selectEntry option.value option.label) :=
    .flatMap fun option _ => hentry option.value option.label
  have hentries := (hentry "" "Select...").append hoptions
  exact (hentries.block (by simp [isPlain, isTagName, attr]) (by decide)).append
    (wellFormed_optionDetails key options)

theorem wellFormed_personInputs (options : List ChoiceOption) (person : String) (n : Nat) :
    WellFormed (personInputs key options person n) := by
  have hrole : WellFormed (element "span" [attr "class" "fc-role"] [.text person]) :=
    .element (by simp [isPlain, isTagName, attr]) (by decide) (.text _)
  have hchoices : WellFormed
      (options.flatMap (choiceInput "radio" [attr "name" (key ++ ":" ++ natText n)])) :=
    .flatMap fun _ _ => wellFormed_choiceInput _ (by simp [isTagName, attr]) _
  -- the first line of the element goes on behind its opening tag
  have hperson : personInputs key options person n = elementLine "div"
      [attr "class" "fc-person", attr "data-role" person]
      (line (element "span" [attr "class" "fc-role"] [.text person]) ++
        options.flatMap (choiceInput "radio" [attr "name" (key ++ ":" ++ natText n)])) := by
    simp [personInputs, elementLine, line, element]
  rw [hperson]
  exact (hrole.line.append hchoices).elementLine (by simp [isPlain, isTagName, attr]) (by decide)

theorem wellFormed_peopleInputs : WellFormed (peopleInputs question key) :=
  .block (by simp [isPlain, isTagName, attr]) (by decide)
    (.flatMap fun _ _ => wellFormed_personInputs key question.options _ _)

theorem wellFormed_questionInputs : WellFormed (questionInputs question key) := by
  have hlabel := wellFormed_inputLabel question key
  have hgroup := wellFormed_groupLabel question
  unfold questionInputs
  cases question.answerType with
  | displayText => exact .elementLine (by simp [isPlain, isTagName, attr]) (by decide) (.text _)
  | textarea =>
      exact hlabel.append (.elementLine (by simp [isPlain, isTagName, attr]) (by decide) .nil)
  | dropdown => exact hlabel.append (wellFormed_selectInput key question.options)
  | radio => exact hgroup.append (wellFormed_choiceInputs key "radio" question.options)
  | checkbox => exact hgroup.append (wellFormed_choiceInputs key "checkbox" question.options)
  | radioMultiPerson => exact hgroup.append (wellFormed_peopleInputs question key)
  | file =>
      have haccept : (acceptAttributes question).all (isTagName ·.name) = true := by
        refine List.all_eq_true.2 fun item hitem => ?_
        obtain ⟨accept, -, rfl⟩ := Option.map_eq_some_iff.1 (Option.mem_toList.1 hitem)
        show isTagName "accept" = true
        decide
      refine hlabel.append (.inputLine ?_)
      simp only [isPlain, List.all_append, haccept]
      simp [isTagName, attr]
  | _ => exact hlabel.append (.inputLine (by simp [isPlain, isTagName, attr]))

theorem wellFormed_errorPlace : WellFormed (errorPlace question key) :=
  .ite (.elementLine (by simp [isPlain, isTagName, attr, flag]) (by decide) .nil) .nil

theorem isPlain_questionElement (isSub : Bool) :
    (opening "div" (questionAttributes question key isSub)).isPlain = true := by
  have hnames : ∀ name ∈ Question.attributeNames isSub, isTagName name = true := by
    cases isSub <;> decide
  simp only [isPlain, Bool.and_eq_true, List.all_eq_true]
  exact ⟨by decide, fun item hitem =>
    hnames item.name (Question.name_mem_attributeNames question key isSub hitem)⟩

theorem wellFormed_questionWith (isSub : Bool) {content : List Markup} (h : WellFormed content) :
    WellFormed (questionWith question key isSub content) :=
  .block (isPlain_questionElement question key isSub) (by decide)
    (((wellFormed_questionInputs question key).append h).append
      (wellFormed_errorPlace question key))

theorem wellFormed_subQuestions : WellFormed (subQuestions question key) :=
  .ite .nil (.block (by simp [isPlain, isTagName, attr]) (by decide)
    (.flatMap fun _ _ => wellFormed_questionWith _ _ true .nil))

theorem wellFormed_question : WellFormed (Markup.question question key) :=
  wellFormed_questionWith question key false (wellFormed_subQuestions question key)

end Question

/-! ### The pieces of a document -/

theorem wellFormed_instanceHeader (slot : InstanceSlot) : WellFormed (instanceHeader slot) := by
  have hnumber : WellFormed
      (element "span" [attr "class" "fc-instance-number"] [.text slot.number]) :=
    .element (by simp [isPlain, isTagName, attr]) (by decide) (.text _)
  have hremove : WellFormed (element "button"
      [attr "type" "button", attr "class" "fc-remove-instance"] [.text "Remove"]) :=
    .element (by simp [isPlain, isTagName, attr]) (by decide) (.text _)
  exact (hnumber.append hremove).elementLine (by simp [isPlain, isTagName, attr]) (by decide)

theorem wellFormed_groupInstance (key : GroupKey) (group : Group) (slot : InstanceSlot) :
    WellFormed (groupInstance key group slot) := by
  have hheader : WellFormed (if group.repeatable then instanceHeader slot else []) :=
    .ite (wellFormed_instanceHeader slot) .nil
  exact .block (by simp [isPlain, isTagName, attr]) (by decide)
    (hheader.append (.flatMap fun _ _ => wellFormed_question _ _))

theorem wellFormed_instanceAdder (key : GroupKey) (group : Group) (fidelity : InstanceFidelity) :
    WellFormed (instanceAdder key group fidelity) := by
  have hbutton : WellFormed (elementLine "button"
      [attr "type" "button", attr "class" "fc-add-instance", attr "data-group-key" key.text]
      [.text "Add another"]) :=
    .elementLine (by simp [isPlain, isTagName, attr]) (by decide) (.text _)
  cases fidelity with
  | genericText => exact hbutton.append .nil
  | template =>
      have htemplate := wellFormed_groupInstance key group .placeholder
      exact hbutton.append (htemplate.block (by simp [isPlain, isTagName, attr]) (by decide))

theorem wellFormed_group (fidelity : InstanceFidelity) (key : GroupKey) (group : Group) :
    WellFormed (Markup.group fidelity key group) := by
  have htitle : WellFormed (if group.title = "" then []
      else elementLine "h3" [attr "class" "fc-group-title"] [.text group.title]) :=
    .ite .nil (.elementLine (by simp [isPlain, isTagName, attr]) (by decide) (.text _))
  have hinstances : WellFormed
      (block "div" [attr "class" "fc-instances"] (groupInstance key group (.index 0))) :=
    .block (by simp [isPlain, isTagName, attr]) (by decide) (wellFormed_groupInstance _ _ _)
  have hadder : WellFormed
      (if group.repeatable then instanceAdder key group fidelity else []) :=
    .ite (wellFormed_instanceAdder key group fidelity) .nil
  exact .block (by simp [isPlain, isTagName, attr]) (by decide)
    ((htitle.append hinstances).append hadder)

theorem wellFormed_formSection (fidelity : InstanceFidelity) (p s : Nat) (part : Section) :
    WellFormed (formSection fidelity p s part) := by
  have hlegend : WellFormed (elementLine "legend" [] [.text part.title]) :=
    .elementLine (by simp [isPlain, isTagName]) (by decide) (.text _)
  exact .block (by simp [isPlain, isTagName, attr]) (by decide)
    (hlegend.append (.flatMap fun _ _ => wellFormed_group _ _ _))

theorem wellFormed_page (fidelity : InstanceFidelity) (p : Nat) (page : Page) :
    WellFormed (Markup.page fidelity p page) := by
  have htitle : WellFormed (elementLine "h2" [attr "class" "fc-page-title"] [.text page.title]) :=
    .elementLine (by simp [isPlain, isTagName, attr]) (by decide) (.text _)
  exact .block (by simp [isPlain, isTagName, attr]) (by decide)
    (htitle.append (.flatMap fun _ _ => wellFormed_formSection _ _ _ _))

theorem wellFormed_body (document : Document) (fidelity : InstanceFidelity) :
    WellFormed (body document fidelity) :=
  .flatMap fun _ _ => wellFormed_page _ _ _

end Markup

namespace Document

/-- The tags of an exported page are those it has been written with. -/
theorem readTags_renderBody (document : Document) (fidelity : InstanceFidelity) :
    Markup.readTags .between (document.renderBody fidelity) =
      some (Markup.tags (Markup.body document fidelity)) :=
  Markup.readTags_render (Markup.wellFormed_body document fidelity).plain

/-- **The tags of an exported page nest**: but for the tags of inputs, which are never closed, each
closing tag closes the element that has been opened last of those still open, and none is left open.
So it is whatever the document is, and whatever is written in it. -/
theorem openAfter_renderBody (document : Document) (fidelity : InstanceFidelity) :
    ∃ tags, Markup.readTags .between (document.renderBody fidelity) = some tags ∧
      openAfter [] (tags.filter (!·.isVoid)) = some [] := by
  refine ⟨_, document.readTags_renderBody fidelity, ?_⟩
  have hnests := (Markup.wellFormed_body document fidelity).nests [] []
  rwa [List.append_nil] at hnests

end Document

end Questionnaire
