import Questionnaire.Proofs.Export.Filling

/-! # Templates of instances

A group's template and its instances are built alike, out of pieces that filling in respects one by
one. So a template turns into the instance of the index that is put in, but for the number that the
instance shows (`Markup.replaceAll_groupInstance`). -/

namespace Questionnaire

open InstanceSlot

variable {i : Nat}

/-! ### The texts of a group -/

/-- The texts of an option. -/
def ChoiceOption.texts (option : ChoiceOption) : List String :=
  option.value :: option.label :: option.inputType.toList

/-- The revealing values. -/
def ShowWhen.texts : ShowWhen → List String
  | .one value => [value]
  | .any values => values

/-- The texts of some rules. -/
def ValidationSpec.texts (spec : ValidationSpec) : List String :=
  spec.pattern.toList ++ spec.errorMessage.toList ++ spec.accept.toList

/-- The texts of a question without those of its sub-questions. -/
def Question.ownTexts (question : Question) : List String :=
  question.id :: question.text :: (question.options.flatMap ChoiceOption.texts
    ++ question.validation.toList.flatMap ValidationSpec.texts ++ question.parent.toList
    ++ question.showWhen.toList.flatMap ShowWhen.texts ++ question.appliesTo)

/-- The texts of the questions and sub-questions of a group. -/
def Group.texts (group : Group) : List String :=
  group.questions.flatMap fun question =>
    question.ownTexts ++ question.subQuestions.flatMap Question.ownTexts

/-- None of the texts has the placeholder. -/
def AllFree (texts : List String) : Prop := ∀ text ∈ texts, Free text

theorem ShowWhen.settled_toJson {showWhen : ShowWhen} (h : AllFree showWhen.texts) :
    showWhen.toJson.Settled i := by
  cases showWhen with
  | one value => exact .string (h value List.mem_cons_self)
  | any values => exact .strings h

theorem ValidationSpec.settled_toJson {spec : ValidationSpec} (h : AllFree spec.texts) :
    spec.toJson.Settled i := by
  have hstring (value : Option String) (hvalue : value.toList ⊆ spec.texts) :
      ∀ text ∈ value, Json.Settled i (.string text) := fun text htext =>
    .string (h text (hvalue (Option.mem_toList.mpr htext)))
  have hnumber (value : Option Binary64) : ∀ x ∈ value, Json.Settled i (numberJson x) :=
    fun x _ => .number (.double x)
  have hlength (value : Option Nat) : ∀ n ∈ value, Json.Settled i (.ofNat n) :=
    fun n _ => .number (.natural n)
  refine .record ?_
  simp only [List.forall_mem_cons, Option.mem_def, Option.map_eq_some_iff, forall_exists_index,
    and_imp, forall_apply_eq_imp_iff₂]
  exact ⟨⟨free_of_notMem (by decide), hlength _⟩, ⟨free_of_notMem (by decide), hlength _⟩,
    ⟨free_of_notMem (by decide), hnumber _⟩, ⟨free_of_notMem (by decide), hnumber _⟩,
    ⟨free_of_notMem (by decide), hstring _ (by simp [texts])⟩,
    ⟨free_of_notMem (by decide), hstring _ (by simp [texts])⟩,
    ⟨free_of_notMem (by decide), hstring _ (by simp [texts])⟩,
    ⟨free_of_notMem (by decide), hnumber _⟩, by simp⟩

/-! ### Questions -/

namespace Markup

section question

variable {question : Question} {key key' : String}

theorem attributesBecome_parentAttributes (h : AllFree question.ownTexts) (isSub : Bool) :
    AttributesBecome i (parentAttributes question isSub) (parentAttributes question isSub) := by
  unfold parentAttributes
  split
  · rename_i parent hparent
    split
    · exact .nil
    · have hid : Free parent := h _ (by simp [Question.ownTexts, hparent])
      refine .free (by decide) hid ?_
      cases hshow : question.showWhen with
      | none => exact .nil
      | some showWhen =>
          have htexts : AllFree showWhen.texts := fun text htext =>
            h text (by simp [Question.ownTexts, hshow, htext])
          exact .json (by decide) (ShowWhen.settled_toJson htexts) .nil
  · exact .nil

theorem attributesBecome_validationAttributes (h : AllFree question.ownTexts) :
    AttributesBecome i (validationAttributes question) (validationAttributes question) := by
  unfold validationAttributes
  split
  · rename_i spec hspec
    have htexts : AllFree spec.texts := fun text htext =>
      h text (by simp [Question.ownTexts, hspec, htext])
    split
    · exact .nil
    · exact .json (by decide) (ValidationSpec.settled_toJson htexts) .nil
  · exact .nil

theorem attributesBecome_personAttributes (h : AllFree question.ownTexts) :
    AttributesBecome i (personAttributes question) (personAttributes question) := by
  unfold personAttributes
  split
  · have hpersons : ∀ person ∈ question.appliesTo, Free person := fun person hperson =>
      h person (by simp [Question.ownTexts, hperson])
    exact .json (by decide) (.strings hpersons) .nil
  · exact .nil

theorem attributesBecome_questionAttributes (h : AllFree question.ownTexts)
    (hkey : KeyBecomes i key key') (isSub : Bool) :
    AttributesBecome i (questionAttributes question key isSub)
      (questionAttributes question key' isSub) := by
  have hclass : 'I' ∉ (if isSub then "fc-question fc-subquestion" else "fc-question").toList := by
    cases isSub <;> decide
  have hid : Free question.id := h _ List.mem_cons_self
  have htype : 'I' ∉ question.answerType.name.toList := by
    cases question.answerType <;> decide
  have hrequired : 'I' ∉ (boolText question.required).toList := by
    cases question.required <;> decide
  exact .append (.append (.append
    (.fixed (by decide) hclass (.key (by decide) hkey (.free (by decide) hid
      (.fixed (by decide) htype (.fixed (by decide) hrequired .nil)))))
    (attributesBecome_parentAttributes h isSub))
    (attributesBecome_validationAttributes h)) (attributesBecome_personAttributes h)

/-! ### Inputs -/

theorem piecesBecome_inputLine {attributes attributes' : List Attribute}
    (h : AttributesBecome i attributes attributes') :
    PiecesBecome i (inputLine attributes) (inputLine attributes') :=
  .line (.opening (by decide) h)

theorem piecesBecome_requiredMark :
    PiecesBecome i (requiredMark question) (requiredMark question) := by
  unfold requiredMark
  split
  · refine .element (by decide) (.fixed (by decide) (by decide) (.fixed (by decide) ?_ .nil))
      (fillIn_render_text (fillIn_of_notMem (by decide)))
    decide
  · exact .nil

theorem fillIn_render_label (h : AllFree question.ownTexts) :
    fillIn i (render (text question.text :: requiredMark question)) =
      render (text question.text :: requiredMark question) := by
  have htext : fillIn i question.text.toList = question.text.toList :=
    fillIn_eq_self (h _ (by simp [Question.ownTexts]))
  have hmark : PiecesBecome i (requiredMark question) (requiredMark question) :=
    piecesBecome_requiredMark
  unfold requiredMark at hmark ⊢
  split
  · rename_i hrequired
    rw [if_pos hrequired] at hmark
    exact fillIn_text_cons htext hmark
  · exact fillIn_render_text htext

theorem piecesBecome_inputLabel (h : AllFree question.ownTexts) (hkey : KeyBecomes i key key') :
    PiecesBecome i (inputLabel question key) (inputLabel question key') :=
  .elementLine (by decide) (.fixed (by decide) (by decide) (.key (by decide) hkey .nil))
    (fillIn_render_label h)

theorem piecesBecome_groupLabel (h : AllFree question.ownTexts) :
    PiecesBecome i (groupLabel question) (groupLabel question) :=
  .elementLine (by decide) (.fixed (by decide) (by decide) .nil) (fillIn_render_label h)

section option

variable {option : ChoiceOption} {options : List ChoiceOption}

theorem piecesBecome_optionDetail (h : AllFree option.texts) (hkey : KeyBecomes i key key')
    (n : Nat) : PiecesBecome i (optionDetail key n option) (optionDetail key' n option) := by
  have hdetail : KeyBecomes i (optionDetailKey key n) (optionDetailKey key' n) :=
    hkey.extend (by decide) n
  have htype : Free (option.inputType.getD "text") := by
    cases hinput : option.inputType with
    | none => exact free_of_notMem (by decide)
    | some inputType => exact h inputType (by simp [ChoiceOption.texts, hinput])
  have hvalue : Free option.value := h _ (by simp [ChoiceOption.texts])
  have hlabel : Free option.label := h _ (by simp [ChoiceOption.texts])
  exact piecesBecome_inputLine
    (.free (by decide) htype (.fixed (by decide) (by decide) (.key (by decide) hdetail
      (.key (by decide) hdetail (.free (by decide) hvalue (.free (by decide) hlabel
        (.flag (by decide) .nil)))))))

theorem piecesBecome_optionDetails (h : ∀ option ∈ options, AllFree option.texts)
    (hkey : KeyBecomes i key key') :
    PiecesBecome i (optionDetails key options) (optionDetails key' options) := by
  refine .flatMap_zipIdx fun option hoption n => ?_
  dsimp only
  split
  · exact piecesBecome_optionDetail (h option hoption) hkey n
  · exact .nil

theorem piecesBecome_choiceInput {kind : String} (hkind : 'I' ∉ kind.toList)
    {identity identity' : List Attribute} (hidentity : AttributesBecome i identity identity')
    (h : AllFree option.texts) :
    PiecesBecome i (choiceInput kind identity option) (choiceInput kind identity' option) := by
  have hvalue : Free option.value := h _ (by simp [ChoiceOption.texts])
  have hlabel : Free option.label := h _ (by simp [ChoiceOption.texts])
  have htext : fillIn i (" " ++ option.label).toList = (" " ++ option.label).toList := by
    rw [String.toList_append]
    exact (Becomes.cons (c := ' ') (by decide) .nil option.label.toList).trans
      (congrArg _ (fillIn_eq_self hlabel))
  have hinput : PiecesBecome i
      [.opening "input" (attr "type" kind :: (identity ++ [attr "value" option.value]))]
      [.opening "input" (attr "type" kind :: (identity' ++ [attr "value" option.value]))] :=
    .opening (by decide)
      (.fixed (by decide) hkind (.append hidentity (.free (by decide) hvalue .nil)))
  refine .elementLine (by decide) .nil ?_
  rw [← List.singleton_append, render_append, hinput, fillIn_render_text htext, ← render_append]
  rfl

theorem piecesBecome_choiceInputs {kind : String} (hkind : 'I' ∉ kind.toList)
    (h : ∀ option ∈ options, AllFree option.texts) (hkey : KeyBecomes i key key') :
    PiecesBecome i (choiceInputs kind key options) (choiceInputs kind key' options) := by
  refine .append (.block (by decide) (.fixed (by decide) (by decide) .nil)
    (.flatMap_zipIdx fun option hoption n => ?_)) (piecesBecome_optionDetails h hkey)
  have hid : KeyBecomes i (key ++ "-o" ++ natText n) (key' ++ "-o" ++ natText n) :=
    hkey.extend (by decide) n
  exact piecesBecome_choiceInput hkind (.key (by decide) hid (.key (by decide) hkey .nil))
    (h option hoption)

theorem piecesBecome_selectEntry {value label : String} (hvalue : Free value)
    (hlabel : Free label) :
    PiecesBecome i (selectEntry value label) (selectEntry value label) :=
  .elementLine (by decide) (.free (by decide) hvalue .nil)
    (fillIn_render_text (fillIn_eq_self hlabel))

theorem piecesBecome_selectInput (h : ∀ option ∈ options, AllFree option.texts)
    (hkey : KeyBecomes i key key') :
    PiecesBecome i (selectInput key options) (selectInput key' options) := by
  have hfirst : PiecesBecome i (selectEntry "" "Select...") (selectEntry "" "Select...") :=
    piecesBecome_selectEntry (free_of_notMem (by decide)) (free_of_notMem (by decide))
  refine .append (.block (by decide) (.key (by decide) hkey (.key (by decide) hkey .nil))
    (hfirst.append (.flatMap fun option hoption => ?_))) (piecesBecome_optionDetails h hkey)
  have htexts := h option hoption
  exact piecesBecome_selectEntry (htexts _ (by simp [ChoiceOption.texts]))
    (htexts _ (by simp [ChoiceOption.texts]))

theorem piecesBecome_personInputs (h : ∀ option ∈ options, AllFree option.texts)
    (hkey : KeyBecomes i key key') {person : String} (hperson : Free person) (n : Nat) :
    PiecesBecome i (personInputs key options person n) (personInputs key' options person n) := by
  have hname : KeyBecomes i (key ++ ":" ++ natText n) (key' ++ ":" ++ natText n) :=
    hkey.extend (by decide) n
  have hopening : PiecesBecome i
      [.opening "div" [attr "class" "fc-person", attr "data-role" person]]
      [.opening "div" [attr "class" "fc-person", attr "data-role" person]] :=
    .opening (by decide) (.fixed (by decide) (by decide) (.free (by decide) hperson .nil))
  have hrole : PiecesBecome i (element "span" [attr "class" "fc-role"] [text person])
      (element "span" [attr "class" "fc-role"] [text person]) :=
    .element (by decide) (.fixed (by decide) (by decide) .nil)
      (fillIn_render_text (fillIn_eq_self hperson))
  refine .append (.append (.line (hopening.append hrole)) (.flatMap fun option hoption => ?_))
    (.line (.closing (by decide)))
  exact piecesBecome_choiceInput (by decide) (.key (by decide) hname .nil) (h option hoption)

end option

theorem allFree_options (h : AllFree question.ownTexts) :
    ∀ option ∈ question.options, AllFree option.texts := fun option hoption text htext =>
  h text (by simp only [Question.ownTexts, List.mem_cons, List.mem_append, List.mem_flatMap]; grind)

theorem piecesBecome_peopleInputs (h : AllFree question.ownTexts) (hkey : KeyBecomes i key key') :
    PiecesBecome i (peopleInputs question key) (peopleInputs question key') := by
  refine .block (by decide) (.fixed (by decide) (by decide) .nil)
    (.flatMap_zipIdx fun person hperson n => ?_)
  have hfree : Free person := h person (by simp [Question.ownTexts, hperson])
  exact piecesBecome_personInputs (allFree_options h) hkey hfree n

theorem attributesBecome_acceptAttributes (h : AllFree question.ownTexts) :
    AttributesBecome i (acceptAttributes question) (acceptAttributes question) := by
  unfold acceptAttributes
  cases haccept : question.validation.bind (·.accept) with
  | none => exact .nil
  | some accept =>
      obtain ⟨spec, hspec, haccept⟩ := Option.bind_eq_some_iff.mp haccept
      have hfree : Free accept := h accept (by
        simp [Question.ownTexts, ValidationSpec.texts, hspec, haccept])
      exact .free (by decide) hfree .nil

theorem piecesBecome_questionInputs (h : AllFree question.ownTexts)
    (hkey : KeyBecomes i key key') :
    PiecesBecome i (questionInputs question key) (questionInputs question key') := by
  have htext : Free question.text := h _ (by simp [Question.ownTexts])
  have hlabel := piecesBecome_inputLabel h hkey
  have hspan : PiecesBecome i (groupLabel question) (groupLabel question) :=
    piecesBecome_groupLabel h
  have hoptions := allFree_options h
  have hidentity : AttributesBecome i [attr "id" key, attr "name" key]
      [attr "id" key', attr "name" key'] :=
    .key (by decide) hkey (.key (by decide) hkey .nil)
  unfold questionInputs
  cases question.answerType with
  | displayText =>
      exact .elementLine (by decide) (.fixed (by decide) (by decide) .nil)
        (fillIn_render_text (fillIn_eq_self htext))
  | text | email | tel | date | number =>
      exact hlabel.append (piecesBecome_inputLine (.fixed (by decide) (by decide) hidentity))
  | textarea =>
      exact hlabel.append (.elementLine (by decide) (.append hidentity
        (.fixed (by decide) (by decide) .nil)) Text.replaceAll_nil)
  | dropdown => exact hlabel.append (piecesBecome_selectInput hoptions hkey)
  | radio => exact hspan.append (piecesBecome_choiceInputs (by decide) hoptions hkey)
  | checkbox => exact hspan.append (piecesBecome_choiceInputs (by decide) hoptions hkey)
  | radioMultiPerson => exact hspan.append (piecesBecome_peopleInputs h hkey)
  | file =>
      exact hlabel.append (piecesBecome_inputLine
        (.append (.fixed (by decide) (by decide) hidentity) (attributesBecome_acceptAttributes h)))

/-! ### Questions and instances -/

theorem piecesBecome_errorPlace (hkey : KeyBecomes i key key') :
    PiecesBecome i (errorPlace question key) (errorPlace question key') := by
  unfold errorPlace
  split
  · exact .elementLine (by decide)
      (.fixed (by decide) (by decide) (.key (by decide) hkey
        (.fixed (by decide) (by decide) (.flag (by decide) .nil)))) Text.replaceAll_nil
  · exact .nil

theorem piecesBecome_questionWith (h : AllFree question.ownTexts) (hkey : KeyBecomes i key key')
    (isSub : Bool) {content content' : List Markup} (hcontent : PiecesBecome i content content') :
    PiecesBecome i (questionWith question key isSub content)
      (questionWith question key' isSub content') :=
  .block (by decide) (attributesBecome_questionAttributes h hkey isSub)
    (.append (.append (piecesBecome_questionInputs h hkey) hcontent) (piecesBecome_errorPlace hkey))

theorem piecesBecome_subQuestions (h : ∀ sub ∈ question.subQuestions, AllFree sub.ownTexts)
    (hkey : KeyBecomes i key key') :
    PiecesBecome i (subQuestions question key) (subQuestions question key') := by
  unfold subQuestions
  split
  · exact .nil
  · refine .block (by decide) (.fixed (by decide) (by decide) .nil)
      (.flatMap_zipIdx fun sub hsub n => ?_)
    exact piecesBecome_questionWith (h sub hsub) (hkey.extend (by decide) n) true .nil

theorem piecesBecome_question (h : AllFree question.ownTexts)
    (hsubs : ∀ sub ∈ question.subQuestions, AllFree sub.ownTexts) (hkey : KeyBecomes i key key') :
    PiecesBecome i (Markup.question question key) (Markup.question question key') :=
  piecesBecome_questionWith h hkey false (piecesBecome_subQuestions hsubs hkey)

end question

section instances

variable (key : GroupKey) (group : Group)

/-- The beginning of an instance, up to the number that it shows. -/
def instanceOpening (slot : InstanceSlot) : List Markup :=
  line [opening "div" [attr "class" "fc-instance", attr "data-instance" slot.label]]
    ++ if group.repeatable then
      [opening "div" [attr "class" "fc-instance-header"],
        opening "span" [attr "class" "fc-instance-number"]]
    else []

/-- The rest of an instance, from the end of the number that it shows. -/
def instanceRest (slot : InstanceSlot) : List Markup :=
  (if group.repeatable then
    [closing "span"] ++ element "button" [attr "type" "button", attr "class" "fc-remove-instance"]
      [text "Remove"] ++ line [closing "div"]
    else [])
    ++ group.questions.zipIdx.flatMap (fun (entry, q) =>
      question entry (slotKey (key.question q) slot))
    ++ line [closing "div"]

theorem groupInstance_eq (slot : InstanceSlot) :
    groupInstance key group slot = instanceOpening group slot ++
      ((if group.repeatable then [text slot.number] else []) ++ instanceRest key group slot) := by
  cases hrepeatable : group.repeatable <;>
    simp [groupInstance, instanceOpening, instanceRest, instanceHeader, hrepeatable, block, line,
      elementLine, element]

theorem piecesBecome_instanceOpening (i : Nat) :
    PiecesBecome i (instanceOpening group .placeholder) (instanceOpening group (.index i)) := by
  have hlabel : fillIn i (label .placeholder).toList = (label (.index i)).toList := by
    simpa [label, natText] using (becomes_placeholder i).fillIn_eq
  refine .append (.line (.opening (by decide)
    (.fixed (by decide) (by decide) (.attr (by decide) hlabel .nil)))) ?_
  split
  · exact .append (.opening (by decide) (.fixed (by decide) (by decide) .nil))
      (.opening (by decide) (.fixed (by decide) (by decide) .nil))
  · exact .nil

theorem piecesBecome_instanceRest {group : Group} (h : AllFree group.texts) (i : Nat) :
    PiecesBecome i (instanceRest key group .placeholder) (instanceRest key group (.index i)) := by
  refine .append (.append ?_ (.flatMap_zipIdx fun entry hentry q => ?_))
    (.line (.closing (by decide)))
  · split
    · exact .append (.append (.closing (by decide)) (.element (by decide)
        (.fixed (by decide) (by decide) (.fixed (by decide) (by decide) .nil))
        (fillIn_render_text (fillIn_of_notMem (by decide))))) (.line (.closing (by decide)))
    · exact .nil
  · have htexts : ∀ text ∈ entry.ownTexts ++ entry.subQuestions.flatMap Question.ownTexts,
        Free text := fun text htext => h text (List.mem_flatMap.mpr ⟨entry, hentry, htext⟩)
    refine piecesBecome_question (fun text htext => htexts text (List.mem_append_left _ htext))
      (fun sub hsub text htext => htexts text (List.mem_append_right _ ?_))
      (keyBecomes_slotKey _ i)
    exact List.mem_flatMap.mpr ⟨sub, hsub, htext⟩

/-- **A template becomes an instance.** If no text of the questions of a group has the placeholder,
then putting an index in the place of every placeholder in the template gives the instance of that
index, but for the number of the instance, which a template of a repeatable group leaves out. -/
theorem replaceAll_groupInstance {group : Group}
    (h : ∀ text ∈ group.texts, ¬ placeholderText.toList <:+: text.toList) (i : Nat) :
    ∃ before after : List Char,
      Text.replaceAll placeholderText.toList (Decimal.print i)
          (render (groupInstance key group .placeholder)) = before ++ after ∧
        render (groupInstance key group (.index i)) =
          before ++ (if group.repeatable then Decimal.print (i + 1) else []) ++ after ∧
        (group.repeatable = true →
          (opening "span" [attr "class" "fc-instance-number"]).chars <:+ before ∧
            (closing "span").chars <+: after) := by
  -- the number stands between two rows of pieces; in the template nothing does
  have hnumber : render (if group.repeatable then [text (number (.index i))] else []) =
      if group.repeatable then Decimal.print (i + 1) else [] := by
    split
    · exact (List.append_nil _).trans (escapeHtmlChars_natText (i + 1))
    · rfl
  have hnone : render (if group.repeatable then [text (number .placeholder)] else []) = [] := by
    split <;> rfl
  refine ⟨render (instanceOpening group (.index i)), render (instanceRest key group (.index i)),
    ?_, ?_, fun hrepeatable => ⟨?_, ?_⟩⟩
  · have hfilled := ((piecesBecome_instanceOpening group i).append
      (piecesBecome_instanceRest key h i)).fillIn_eq
    rw [groupInstance_eq, render_append, render_append, hnone, List.nil_append, ← render_append,
      ← render_append]
    exact hfilled
  · rw [groupInstance_eq, render_append, render_append, hnumber, List.append_assoc]
  · rw [instanceOpening, if_pos hrepeatable, render_append]
    refine List.IsSuffix.trans ?_ (List.suffix_append _ _)
    exact ⟨(opening "div" [attr "class" "fc-instance-header"]).chars, by simp [render]⟩
  · rw [instanceRest, if_pos hrepeatable, List.append_assoc, List.append_assoc, List.append_assoc,
      render_append]
    refine List.IsPrefix.trans ?_ (List.prefix_append _ _)
    exact ⟨[], by simp [render]⟩

/-- A group that asks for pets, with texts that come close to the placeholder. -/
def petGroup : Group where
  title := "__INSTANCE__"
  repeatable := true
  questions := [
    { Question.blank with
      id := "pet", text := "Pet __INSTANCE_ or _INSTANCE__?", answerType := .radio, required := true
      options := [⟨"dog", "Dog", false, none⟩, ⟨"other", "Other <_>", true, some "text"⟩]
      subQuestions := [
        { Question.blank with
          id := "_", text := "__", answerType := .radioMultiPerson
          appliesTo := ["I", "INSTANCE"] }] },
    { Question.blank with
      id := "age", text := "Age & size", answerType := .number
      validation := some { ValidationSpec.empty with min := some (.ofNat 1), pattern := some "__" }
      parent := some "pet", showWhen := some (.any ["dog", "__IN"]) }]

/-- Its template becomes each of its instances. -/
theorem replaceAll_groupInstance_petGroup :
    ∃ before after : List Char,
      Text.replaceAll placeholderText.toList (Decimal.print 12)
          (render (groupInstance ⟨0, 1, 2⟩ petGroup .placeholder)) = before ++ after ∧
        render (groupInstance ⟨0, 1, 2⟩ petGroup (.index 12)) =
          before ++ Decimal.print 13 ++ after ∧
        (closing "span").chars <+: after := by
  have hfree : ∀ text ∈ petGroup.texts, ¬ placeholderText.toList <:+: text.toList := by
    decide +kernel
  obtain ⟨before, after, htemplate, hinstance, hspan⟩ :=
    replaceAll_groupInstance ⟨0, 1, 2⟩ hfree 12
  exact ⟨before, after, htemplate, hinstance, (hspan rfl).2⟩

end instances

end Markup

end Questionnaire
