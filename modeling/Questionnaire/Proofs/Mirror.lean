import Questionnaire.Proofs.Answer.Agreement
import Questionnaire.Proofs.Answer.Removal
import Questionnaire.Proofs.Submission.Indexed
import Questionnaire.Proofs.Submission.Interactive

/-! # Instances that look alike

`Document.Mirrors` relates an instance of a group in one state of a form to an instance of the same
group in another state: they are live together, the same answers are stored for them and the same
questions are shown at them. No view tells such instances apart: they are shown alike
(`Document.Mirrors.get?_visibility`), the same is wrong with them
(`Document.Mirrors.mem_validate_iff`), and both submissions say the same of them
(`Document.Mirrors.questions_instanceEntry`, `Document.Mirrors.slot?_indexedTree`). -/

namespace Questionnaire.Document

/-- An instance of a group in one state is like an instance of it in another state. -/
structure Mirrors (document : Document) (state former : FormState) (key : GroupKey) (i j : Nat) :
    Prop where
  live : i < document.liveInstances state.instances key ↔
    j < document.liveInstances former.instances key
  answers : ∀ (coords : QuestionCoords) (question : Question),
    document.question? coords = some question → coords.groupKey = key →
      state.answers.AgreeBeside former.answers (coords.fieldKey i).text (coords.fieldKey j).text
  shown : ∀ (mode : VisibilityMode) (coords : QuestionCoords) (question : Question),
    document.question? coords = some question → coords.groupKey = key →
      questionVisible document.index state.answers mode coords question i =
        questionVisible document.index former.answers mode coords question j

variable {document : Document} {state former : FormState} {key : GroupKey} {i j : Nat}
  {coords : QuestionCoords}

/-- The report lists what is wrong with the parts of the visible fields. -/
theorem mem_validate_iff {text message : String} :
    (text, message) ∈ document.validate state ↔ ∃ field question suffix part,
      (field, question) ∈ document.visibleFields state ∧ (suffix, part) ∈ question.parts ∧
        text = field.text ++ suffix ∧
          part.validateAnswer (state.answers.get? text) = some message := by
  simp only [validate, List.mem_flatMap, Prod.exists, mem_entriesFor_iff]
  constructor
  · rintro ⟨field, question, hvisible, suffix, part, hpart, htext, hmessage⟩
    exact ⟨field, question, suffix, part, hvisible, hpart, htext, hmessage⟩
  · rintro ⟨field, question, suffix, part, hvisible, hpart, htext, hmessage⟩
    exact ⟨field, question, hvisible, suffix, part, hpart, htext, hmessage⟩

/-- A message whose key addresses a group is about a live field of the group or a sub-question
there. -/
theorem exists_field_of_mem_validate {group : GroupKey} {text message : String}
    (h : (text, message) ∈ document.validate state) (haddresses : group.Addresses text) :
    ∃ (field : FieldKey) (suffix : String), text = field.text ++ suffix ∧ field.groupKey = group ∧
      field.instanceIndex < document.liveInstances state.instances group ∧
        (suffix = "" ∨ ∃ n, suffix = subKey "" n) := by
  obtain ⟨field, question, suffix, part, hvisible, hpart, rfl, -⟩ := mem_validate_iff.1 h
  have hfield : field.groupKey = group := by
    by_contra hne
    exact GroupKey.not_addresses_append (Question.endsCoordinate_of_mem_parts hpart) hne haddresses
  have hlt := lt_liveInstances_of_mem_visibleFields hvisible
  rw [hfield] at hlt
  exact ⟨field, suffix, rfl, hfield, hlt, Question.suffix_of_mem_parts hpart⟩

namespace Mirrors

theorem symm (h : document.Mirrors state former key i j) : document.Mirrors former state key j i :=
  ⟨h.live.symm,
    fun coords question hquestion hcoords => (h.answers coords question hquestion hcoords).symm,
    fun mode coords question hquestion hcoords =>
      (h.shown mode coords question hquestion hcoords).symm⟩

/-- The same questions are shown. -/
theorem get?_visibility (h : document.Mirrors state former key i j)
    (hcoords : coords.groupKey = key) (mode : VisibilityMode) :
    (document.visibility state mode).get? (coords.fieldKey i) =
      (document.visibility former mode).get? (coords.fieldKey j) := by
  rw [Document.get?_visibility, Document.get?_visibility]
  simp only [QuestionCoords.instanceIndex_fieldKey, QuestionCoords.groupKey_fieldKey,
    QuestionCoords.coords_fieldKey, hcoords, h.live]
  cases hquestion : document.question? coords with
  | none => rfl
  | some question =>
      rw [Option.map_some, Option.map_some, h.shown mode coords question hquestion hcoords]

theorem mem_visibleFields (h : document.Mirrors state former key i j)
    (hcoords : coords.groupKey = key) {question : Question}
    (hvisible : (coords.fieldKey i, question) ∈ document.visibleFields state) :
    (coords.fieldKey j, question) ∈ document.visibleFields former := by
  obtain ⟨hquestion, hshown⟩ := mem_visibleFields_iff.1 hvisible
  rw [h.get?_visibility hcoords] at hshown
  exact mem_visibleFields_iff.2 ⟨hquestion, hshown⟩

theorem mem_validate (h : document.Mirrors state former key i j) (hcoords : coords.groupKey = key)
    {rest message : String} (hends : EndsCoordinate rest.toList)
    (hmem : ((coords.fieldKey i).text ++ rest, message) ∈ document.validate state) :
    ((coords.fieldKey j).text ++ rest, message) ∈ document.validate former := by
  obtain ⟨field, question, suffix, part, hvisible, hpart, htext, hmessage⟩ :=
    Document.mem_validate_iff.1 hmem
  obtain ⟨rfl, rfl⟩ := FieldKey.text_append_inj hends
    (Question.endsCoordinate_of_mem_parts hpart) htext
  have hquestion := (mem_visibleFields_iff.1 hvisible).1
  rw [h.answers coords question hquestion hcoords rest hends] at hmessage
  exact Document.mem_validate_iff.2
    ⟨_, question, rest, part, h.mem_visibleFields hcoords hvisible, hpart, rfl, hmessage⟩

/-- The same is wrong with the answers. -/
theorem mem_validate_iff (h : document.Mirrors state former key i j)
    (hcoords : coords.groupKey = key) {rest message : String}
    (hends : EndsCoordinate rest.toList) :
    ((coords.fieldKey i).text ++ rest, message) ∈ document.validate state ↔
      ((coords.fieldKey j).text ++ rest, message) ∈ document.validate former :=
  ⟨h.mem_validate hcoords hends, h.symm.mem_validate hcoords hends⟩

theorem entriesFor (h : document.Mirrors state former key i i) {question : Question}
    (hquestion : document.question? coords = some question) (hcoords : coords.groupKey = key) :
    Questionnaire.entriesFor state.answers (coords.fieldKey i) question =
      Questionnaire.entriesFor former.answers (coords.fieldKey i) question := by
  rw [entriesFor_eq, entriesFor_eq]
  refine List.filterMap_congr fun part hpart => ?_
  have hget := h.answers coords question hquestion hcoords part.1
    (Question.endsCoordinate_of_mem_parts hpart)
  simp only [entryFor, hget]

theorem liveInstances_eq (h : ∀ i, document.Mirrors state former key i i) :
    document.liveInstances state.instances key = document.liveInstances former.instances key := by
  have hle := (h (document.liveInstances former.instances key)).live
  have hge := (h (document.liveInstances state.instances key)).live
  omega

/-! ### Submissions -/

theorem foldl_enterQuestion (h : document.Mirrors state former key i j) {question : Question}
    (hquestion : document.question? coords = some question) (hcoords : coords.groupKey = key)
    (entries : List (String × AnswerEntry)) :
    (enteredQuestions (coords.fieldKey i) question).foldl (fun entries (key, question) =>
        enterQuestion state.answers coords.questionIndex entries key question) entries =
      (enteredQuestions (coords.fieldKey j) question).foldl (fun entries (key, question) =>
        enterQuestion former.answers coords.questionIndex entries key question) entries := by
  rw [enteredQuestions_eq_map_parts, enteredQuestions_eq_map_parts, List.foldl_map, List.foldl_map]
  refine List.foldl_ext _ _ _ fun entries part hpart => ?_
  have hends := Question.endsCoordinate_of_mem_parts (Question.mem_parts_of_mem_enteredParts hpart)
  have hpart := (h.answers coords question hquestion hcoords).append hends
  simp only [enterQuestion, hpart.answerEntry]

/-- The interactive submission has the same entries for them. -/
theorem questions_instanceEntry (h : document.Mirrors state former key i j) {group : Group}
    (hgroup : document.group? key = some group) :
    (instanceEntry state document.index key group i).questions =
      (instanceEntry former document.index key group j).questions := by
  simp only [instanceEntry]
  refine List.foldl_ext _ _ _ fun entries entry hentry => ?_
  obtain ⟨coords, question⟩ := entry
  obtain ⟨hcoords, hget⟩ := mem_questionsAt_iff.1 hentry
  have hquestion : document.question? coords = some question :=
    question?_eq_some_iff.2 ⟨group, hcoords ▸ hgroup, hget⟩
  simp only [h.shown .visible coords question hquestion hcoords,
    h.foldl_enterQuestion hquestion hcoords]

theorem answered (h : document.Mirrors state former key i j) (hcoords : coords.groupKey = key)
    {question : Question} {answer : AnswerValue}
    (hanswered : document.Answered state (coords.fieldKey i) question answer) :
    document.Answered former (coords.fieldKey j) question answer where
  found := hanswered.found
  answerable := hanswered.answerable
  visible := by
    rw [← h.get?_visibility hcoords]
    exact hanswered.visible
  stored := by
    rw [← (h.answers coords question hanswered.found hcoords).get?]
    exact hanswered.stored
  truthy := hanswered.truthy

theorem posts (h : document.Mirrors state former key i j) (hcoords : coords.groupKey = key)
    {suffix : String} {value : Json}
    (hposts : document.Posts state (coords.fieldKey i) suffix value) :
    document.Posts former (coords.fieldKey j) suffix value := by
  cases hposts with
  | answer hanswered => exact .answer (h.answered hcoords hanswered)
  | detail hanswered hoption hinput hchosen hstored hne =>
      refine .detail (h.answered hcoords hanswered) hoption hinput hchosen ?_ hne
      rw [FieldKey.optionDetail, optionDetailKey_eq] at hstored ⊢
      rwa [← h.answers coords _ hanswered.found hcoords _ (endsCoordinate_optionDetailKey _)]

theorem leaf?_indexedTree (h : document.Mirrors state former key i j) {name : String}
    {value : Json} (hleaf : (document.indexedTree state).leaf? key i name = some value) :
    (document.indexedTree former).leaf? key j name = some value := by
  obtain ⟨field, suffix, hposts, hfield, rfl, rfl⟩ := leaf?_indexedTree_eq_some_iff.1 hleaf
  have hcoords : field.coords.groupKey = key := hfield
  exact leaf?_indexedTree_eq_some_iff.2
    ⟨field.coords.fieldKey j, suffix, h.posts hcoords hposts, hcoords, rfl, rfl⟩

/-- The submission by position has the same slots for them. -/
theorem slot?_indexedTree (h : document.Mirrors state former key i j) :
    (document.indexedTree state).slot? key i = (document.indexedTree former).slot? key j := by
  refine IndexedTree.slot?_eq_of_leaf?_eq (document.full_indexedTree state)
    (document.full_indexedTree former) fun name => ?_
  ext value
  exact ⟨h.leaf?_indexedTree, h.symm.leaf?_indexedTree⟩

end Mirrors

/-! ### The report outside a group -/

theorem visibleFields_eq_flatMap (document : Document) (state : FormState) :
    document.visibleFields state = document.questions.flatMap fun (coords, question) =>
      ((List.range (document.liveInstances state.instances coords.groupKey)).filter
        (questionVisible document.index state.answers .visible coords question)).map fun i =>
          (coords.fieldKey i, question) := by
  simp only [visibleFields, liveFields, List.filterMap_flatMap, List.filterMap_map]
  refine List.flatMap_congr fun entry _ => ?_
  rw [← List.filterMap_eq_map, List.filterMap_filter]
  rfl

/-- Without the messages of a group the report lists what is wrong with the other fields. -/
theorem filter_validate {group : GroupKey}
    (hfits : ∀ field question, (field, question) ∈ document.visibleFields state →
      field.groupKey = group → field.Fits) :
    (document.validate state).filter (fun entry => ¬ group.Addresses entry.1) =
      (document.visibleFields state).flatMap fun (field, question) =>
        if field.groupKey = group then [] else entriesFor state.answers field question := by
  rw [validate, List.filter_flatMap]
  refine List.flatMap_congr fun entry hentry => ?_
  obtain ⟨field, question⟩ := entry
  refine filter_entriesFor fun rest hends => ?_
  constructor
  · intro haddresses
    by_contra hgroup
    exact GroupKey.not_addresses_append hends hgroup haddresses
  · intro hgroup
    exact (GroupKey.addresses_append (hfits field question hentry hgroup) hends).2 hgroup

/-- If the instances of all other groups look alike, so does the report without the messages of the
group. -/
theorem filter_validate_eq {group : GroupKey}
    (hstate : ∀ field question, (field, question) ∈ document.visibleFields state →
      field.groupKey = group → field.Fits)
    (hformer : ∀ field question, (field, question) ∈ document.visibleFields former →
      field.groupKey = group → field.Fits)
    (h : ∀ key, key ≠ group → ∀ i, document.Mirrors state former key i i) :
    (document.validate state).filter (fun entry => ¬ group.Addresses entry.1) =
      (document.validate former).filter (fun entry => ¬ group.Addresses entry.1) := by
  rw [filter_validate hstate, filter_validate hformer, visibleFields_eq_flatMap,
    visibleFields_eq_flatMap, List.flatMap_assoc, List.flatMap_assoc]
  refine List.flatMap_congr fun entry hentry => ?_
  obtain ⟨coords, question⟩ := entry
  have hquestion := mem_questions_iff.1 hentry
  by_cases hgroup : coords.groupKey = group
  · simp only [List.flatMap_map, QuestionCoords.groupKey_fieldKey, hgroup, if_true]
    rw [List.flatMap_eq_nil_iff.2 fun _ _ => rfl, List.flatMap_eq_nil_iff.2 fun _ _ => rfl]
  · simp only [List.flatMap_map, QuestionCoords.groupKey_fieldKey, hgroup, if_false]
    rw [Mirrors.liveInstances_eq (h _ hgroup),
      List.filter_congr fun i _ => (h _ hgroup i).shown .visible coords question hquestion rfl]
    exact List.flatMap_congr fun i _ => (h _ hgroup i).entriesFor hquestion rfl

end Questionnaire.Document
