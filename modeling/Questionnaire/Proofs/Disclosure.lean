import Mathlib.Data.List.Basic
import Questionnaire.Proofs.Answer.Agreement
import Questionnaire.Proofs.Visibility
import Questionnaire.Submission.Indexed

/-! # Which answers are looked at

A form looks at few of the answers that are stored: those that decide whether a question is shown
(`Document.Consults`) and those of the fields that are shown (`Document.Discloses`). Two stores that
agree on these are shown, validated and submitted alike, whatever else they hold. An answer of a
field that is not shown can only decide what is shown, and an answer under a key of no live field
has no effect at all (`Document.outputs_confined`). -/

namespace Questionnaire

/-! ### Keys of a field -/

/-- The keys of a field: its own, those of its sub-questions and those of the free texts beside the
choices of either. -/
inductive FieldKey.Owns (field : FieldKey) : String → Prop
  | answer : field.Owns field.text
  | sub (n : Nat) : field.Owns (field.sub n)
  | detail (n : Nat) : field.Owns (field.optionDetail n)
  | subDetail (n m : Nat) : field.Owns (optionDetailKey (field.sub n) m)

/-- Whether a key is the field's own or extends it. -/
def FieldKey.Covers (field : FieldKey) (key : String) : Prop :=
  ∃ suffix : String, EndsCoordinate suffix.toList ∧ key = field.text ++ suffix

theorem FieldKey.Owns.covers {field : FieldKey} {key : String} (h : field.Owns key) :
    field.Covers key := by
  cases h with
  | answer => exact ⟨"", endsCoordinate_nil, String.append_empty.symm⟩
  | sub n => exact ⟨_, endsCoordinate_subKey n, field.sub_eq n⟩
  | detail n => exact ⟨_, endsCoordinate_optionDetailKey n, optionDetailKey_eq _ n⟩
  | subDetail n m =>
      refine ⟨subKey "" n ++ optionDetailKey "" m, ?_, ?_⟩
      · rw [String.toList_append]
        exact (endsCoordinate_subKey n).append (endsCoordinate_optionDetailKey m)
      · rw [optionDetailKey_eq, field.sub_eq, String.append_assoc]

theorem FieldKey.Covers.eq {field other : FieldKey} (h : field.Covers other.text) :
    field = other := by
  obtain ⟨suffix, hends, htext⟩ := h
  rw [← String.append_empty (s := other.text)] at htext
  exact (@FieldKey.text_append_inj _ _ "" _ endsCoordinate_nil hends htext).1.symm

/-- The stores agree on what belongs to a part of a field's question. -/
theorem agreeAt_of_mem_parts {answers former : AnswerStore} {field : FieldKey}
    (h : ∀ key, field.Owns key → answers.get? key = former.get? key) {question part : Question}
    {suffix : String} (hpart : (suffix, part) ∈ question.parts) :
    answers.AgreeAt former (field.text ++ suffix) (field.text ++ suffix) := by
  rcases Question.suffix_of_mem_parts hpart with rfl | ⟨n, rfl⟩
  · rw [String.append_empty]
    exact ⟨h _ .answer, fun n => h _ (.detail n)⟩
  · rw [← field.sub_eq]
    exact ⟨h _ (.sub n), fun m => h _ (.subDetail n m)⟩

namespace Document

variable {document : Document} {instances : InstanceTable} {answers former : AnswerStore}

/-! ### What is looked at -/

/-- Whether the answer at a key decides if a question is shown at a live instance. -/
def Consults (document : Document) (instances : InstanceTable) (key : String) : Prop :=
  ∃ coords question i parent, document.question? coords = some question ∧
    i < document.liveInstances instances coords.groupKey ∧
    parentFieldKey? document.index coords question i = some parent ∧ key = parent.text

/-- Whether a key belongs to a field that is shown. -/
def Discloses (document : Document) (state : FormState) (key : String) : Prop :=
  ∃ field question, (field, question) ∈ document.visibleFields state ∧ field.Owns key

/-- Two states of a form are validated and submitted alike. -/
structure SubmitsAlike (document : Document) (state other : FormState) : Prop where
  report : document.validate state = document.validate other
  interactive : ∀ exportedAt, document.interactiveSubmission state exportedAt =
    document.interactiveSubmission other exportedAt
  indexed : ∀ exportedAt, document.indexedSubmission state exportedAt =
    document.indexedSubmission other exportedAt

/-- Two states of a form are told apart by no view of it. -/
structure LooksAlike (document : Document) (state other : FormState) : Prop
    extends document.SubmitsAlike state other where
  visibility : ∀ mode, document.visibility state mode = document.visibility other mode

/-- The visible instances of questions are the same. -/
def ShowsAlike (document : Document) (instances : InstanceTable) (answers former : AnswerStore)
    (mode : VisibilityMode) : Prop :=
  ∀ coords question i, document.question? coords = some question →
    i < document.liveInstances instances coords.groupKey →
      questionVisible document.index answers mode coords question i =
        questionVisible document.index former mode coords question i

/-! ### What is shown -/

theorem get?_visibility_fieldKey {state : FormState} {mode : VisibilityMode}
    {coords : QuestionCoords} {question : Question} {i : Nat}
    (hquestion : document.question? coords = some question)
    (hi : i < document.liveInstances state.instances coords.groupKey) :
    (document.visibility state mode).get? (coords.fieldKey i) =
      some (questionVisible document.index state.answers mode coords question i) := by
  rw [get?_visibility, QuestionCoords.instanceIndex_fieldKey, QuestionCoords.groupKey_fieldKey,
    QuestionCoords.coords_fieldKey, if_pos hi, hquestion, Option.map_some]

theorem showsAlike_of_consults
    (h : ∀ key, document.Consults instances key → answers.get? key = former.get? key)
    (mode : VisibilityMode) : document.ShowsAlike instances answers former mode := by
  intro coords question i hquestion hi
  unfold questionVisible
  cases hparent : parentFieldKey? document.index coords question i with
  | none => rfl
  | some parent =>
      have hfield : answers.field? parent = former.field? parent :=
        h parent.text ⟨coords, question, i, parent, hquestion, hi, hparent, rfl⟩
      simp only [hfield]

theorem showsAlike_iff {mode : VisibilityMode} :
    document.ShowsAlike instances answers former mode ↔
      document.visibility ⟨answers, instances⟩ mode =
        document.visibility ⟨former, instances⟩ mode := by
  constructor
  · intro h
    unfold visibility
    refine congrArg Table.ofList (List.map_congr_left fun entry hentry => ?_)
    obtain ⟨key, coords, question⟩ := entry
    obtain ⟨rfl, hquestion, hi⟩ := mem_liveFields_iff.1 hentry
    exact congrArg _ (h _ question _ hquestion hi)
  · intro h coords question i hquestion hi
    have hget := congrArg (Table.get? · (coords.fieldKey i)) h
    rw [get?_visibility_fieldKey hquestion hi, get?_visibility_fieldKey hquestion hi] at hget
    exact Option.some.inj hget

theorem ShowsAlike.visibleFields (h : document.ShowsAlike instances answers former .visible) :
    document.visibleFields ⟨answers, instances⟩ = document.visibleFields ⟨former, instances⟩ := by
  unfold Document.visibleFields
  refine List.filterMap_congr fun entry hentry => ?_
  obtain ⟨key, coords, question⟩ := entry
  obtain ⟨rfl, hquestion, hi⟩ := mem_liveFields_iff.1 hentry
  simp only [h _ question _ hquestion hi]

/-! ### What is said of it -/

theorem interactiveSubmission_congr {state other : FormState}
    (h : ∀ key group, document.group? key = some group →
      document.groupEntry state document.index key group =
        document.groupEntry other document.index key group) (exportedAt : String) :
    document.interactiveSubmission state exportedAt =
      document.interactiveSubmission other exportedAt := by
  have hpages : (document.interactiveSubmission state exportedAt).pages =
      (document.interactiveSubmission other exportedAt).pages := by
    refine List.map_congr_left fun ⟨page, p⟩ hpage => ?_
    refine congrArg (PageEntry.mk page.title) (List.map_congr_left fun ⟨part, s⟩ hpart => ?_)
    refine congrArg (SectionEntry.mk part.title) (List.map_congr_left fun ⟨group, g⟩ hgroup => ?_)
    refine h ⟨p, s, g⟩ group ?_
    rw [List.mem_zipIdx_iff_getElem?] at hpage hpart hgroup
    simp only [group?, Option.bind_eq_bind, Option.bind_eq_some_iff]
    exact ⟨page, hpage, part, hpart, hgroup⟩
  exact congrArg (InteractiveSubmission.mk · exportedAt document.pages.length document.sourceName)
    hpages

section shown

variable (hshown : document.ShowsAlike instances answers former .visible)
  (hdisclosed : ∀ key, document.Discloses ⟨answers, instances⟩ key →
    answers.get? key = former.get? key)
include hshown hdisclosed

theorem validate_eq_of_discloses :
    document.validate ⟨answers, instances⟩ = document.validate ⟨former, instances⟩ := by
  unfold validate
  rw [← hshown.visibleFields]
  refine List.flatMap_congr fun ⟨field, question⟩ hvisible => ?_
  dsimp only
  rw [entriesFor_eq, entriesFor_eq]
  refine List.filterMap_congr fun part hpart => ?_
  have hagree := agreeAt_of_mem_parts
    (fun key hkey => hdisclosed key ⟨field, question, hvisible, hkey⟩) hpart
  simp only [entryFor, hagree.answer]

theorem instanceEntry_eq_of_discloses {key : GroupKey} {group : Group}
    (hgroup : document.group? key = some group) {i : Nat}
    (hi : i < document.liveInstances instances key) :
    instanceEntry ⟨answers, instances⟩ document.index key group i =
      instanceEntry ⟨former, instances⟩ document.index key group i := by
  refine congrArg (InstanceEntry.mk (i + 1)) (List.foldl_ext _ _ _ fun entries entry hentry => ?_)
  obtain ⟨coords, question⟩ := entry
  obtain ⟨rfl, hget⟩ := mem_questionsAt_iff.1 hentry
  have hquestion : document.question? coords = some question :=
    question?_eq_some_iff.2 ⟨group, hgroup, hget⟩
  simp only [← hshown coords question i hquestion hi]
  split
  · rename_i hasked
    obtain ⟨-, hvisible⟩ := Bool.and_eq_true_iff.1 hasked
    have hmem : (coords.fieldKey i, question) ∈ document.visibleFields ⟨answers, instances⟩ := by
      refine mem_visibleFields_iff.2 ⟨hquestion, ?_⟩
      rw [get?_visibility_fieldKey hquestion hi]
      exact congrArg some hvisible
    rw [enteredQuestions_eq_map_parts, List.foldl_map, List.foldl_map]
    refine List.foldl_ext _ _ _ fun entries part hpart => ?_
    have hagree := agreeAt_of_mem_parts
      (fun key hkey => hdisclosed key ⟨coords.fieldKey i, question, hmem, hkey⟩)
      (Question.mem_parts_of_mem_enteredParts hpart)
    simp only [enterQuestion, hagree.answerEntry]
  · rfl

theorem interactiveSubmission_eq_of_discloses (exportedAt : String) :
    document.interactiveSubmission ⟨answers, instances⟩ exportedAt =
      document.interactiveSubmission ⟨former, instances⟩ exportedAt := by
  refine interactiveSubmission_congr (fun key group hgroup => ?_) exportedAt
  refine congrArg (GroupEntry.mk group.title group.repeatable) ?_
  refine List.map_congr_left fun i hi => ?_
  exact instanceEntry_eq_of_discloses hshown hdisclosed hgroup (List.mem_range.1 hi)

theorem indexedAnswers_eq_of_discloses :
    document.indexedAnswers ⟨answers, instances⟩ = document.indexedAnswers ⟨former, instances⟩ := by
  unfold indexedAnswers
  rw [← hshown.visibleFields]
  refine List.flatMap_congr fun ⟨field, question⟩ hvisible => ?_
  have hagree : answers.AgreeAt former field.text field.text :=
    ⟨hdisclosed _ ⟨field, question, hvisible, .answer⟩,
      fun n => hdisclosed _ ⟨field, question, hvisible, .detail n⟩⟩
  simp only [indexedLeaves, AnswerStore.field?, hagree.answer, hagree.optionDetails]

/-- States that show the same questions, with the same answers, are submitted alike. -/
theorem submitsAlike_of_discloses :
    document.SubmitsAlike ⟨answers, instances⟩ ⟨former, instances⟩ where
  report := validate_eq_of_discloses hshown hdisclosed
  interactive := interactiveSubmission_eq_of_discloses hshown hdisclosed
  indexed exportedAt := by
    unfold indexedSubmission indexedTree
    rw [indexedAnswers_eq_of_discloses hshown hdisclosed]

end shown

/-! ### What is not looked at -/

/-- A parent is asked for at a live instance of its group. -/
theorem live_of_consults (answers : AnswerStore) {key : String}
    (h : document.Consults instances key) :
    ∃ parent : FieldKey, key = parent.text ∧
      ∃ shown, (document.visibility ⟨answers, instances⟩ .visible).get? parent = some shown := by
  obtain ⟨coords, question, i, parent, -, hi, hparent, rfl⟩ := h
  obtain ⟨id, -, hparent⟩ := Option.bind_eq_some_iff.1 hparent
  obtain ⟨found, hfound, hparent⟩ := Option.bind_eq_some_iff.1 hparent
  obtain rfl := Option.some.inj hparent
  refine ⟨_, rfl, _, get?_visibility_fieldKey (question?_of_get?_index hfound) ?_⟩
  split
  · rename_i hgroup
    rwa [hgroup]
  · -- every group has a first instance
    unfold liveInstances InstanceTable.count
    split
    · split <;> omega
    · exact Nat.one_pos

theorem shown_of_discloses {state : FormState} {key : String} (h : document.Discloses state key) :
    ∃ field : FieldKey, field.Covers key ∧
      (document.visibility state .visible).get? field = some true := by
  obtain ⟨field, question, hvisible, hkey⟩ := h
  exact ⟨field, hkey.covers, (mem_visibleFields_iff.1 hvisible).2⟩

/-- **What is not shown is not disclosed.** Two stores that agree on the answers of the parents and
on those of the fields that are shown are told apart by no view. If they differ only under keys of
fields that are not shown, and the same is shown, then they are validated and submitted alike; and
if they differ only under keys of no live field, then again no view tells them apart. -/
theorem outputs_confined (document : Document) (instances : InstanceTable)
    (answers former : AnswerStore) :
    ((∀ key, document.Consults instances key → answers.get? key = former.get? key) →
      (∀ key, document.Discloses ⟨answers, instances⟩ key →
        answers.get? key = former.get? key) →
      document.LooksAlike ⟨answers, instances⟩ ⟨former, instances⟩) ∧
    ((∀ key, answers.get? key ≠ former.get? key → ∀ field : FieldKey, field.Covers key →
        (document.visibility ⟨answers, instances⟩ .visible).get? field ≠ some true) →
      document.visibility ⟨answers, instances⟩ .visible =
        document.visibility ⟨former, instances⟩ .visible →
      document.SubmitsAlike ⟨answers, instances⟩ ⟨former, instances⟩) ∧
    ((∀ key, answers.get? key ≠ former.get? key → ∀ field : FieldKey, field.Covers key →
        (document.visibility ⟨answers, instances⟩ .visible).get? field = none) →
      document.LooksAlike ⟨answers, instances⟩ ⟨former, instances⟩) := by
  have hlooks (hconsulted : ∀ key, document.Consults instances key →
        answers.get? key = former.get? key)
      (hdisclosed : ∀ key, document.Discloses ⟨answers, instances⟩ key →
        answers.get? key = former.get? key) :
      document.LooksAlike ⟨answers, instances⟩ ⟨former, instances⟩ :=
    ⟨submitsAlike_of_discloses (showsAlike_of_consults hconsulted .visible) hdisclosed,
      fun mode => showsAlike_iff.1 (showsAlike_of_consults hconsulted mode)⟩
  refine ⟨hlooks, fun hhidden hshown => ?_, fun hdead => hlooks (fun key hkey => ?_)
    (fun key hkey => ?_)⟩
  · -- what is disclosed is an answer of a field that is shown
    refine submitsAlike_of_discloses (showsAlike_iff.2 hshown) fun key hkey => ?_
    obtain ⟨field, hcovers, htrue⟩ := shown_of_discloses hkey
    by_contra hne
    exact hhidden key hne field hcovers htrue
  · obtain ⟨parent, rfl, shown, hshown⟩ := live_of_consults answers hkey
    by_contra hne
    have hnone := hdead _ hne parent (FieldKey.Owns.covers .answer)
    rw [hshown] at hnone
    cases hnone
  · obtain ⟨field, hcovers, htrue⟩ := shown_of_discloses hkey
    by_contra hne
    have hnone := hdead key hne field hcovers
    rw [htrue] at hnone
    cases hnone

/-- A form that asks for pets and, if there are some, for their names. -/
def petSurvey : Document :=
  ⟨"survey.pdf", [⟨"Pets", 1, [⟨"", [⟨"", true, [
    { Question.blank with id := "pets", answerType := .radio },
    { Question.blank with
      id := "names", parent := some "pets", showWhen := some (.one "yes") }]⟩]⟩]⟩]⟩

/-- The answers of a person without pets. -/
def noPets : AnswerStore := .ofList [("p0_s0_g0_q0_i0", .text "no")]

/-- A name that is not asked for is not submitted, and an answer at an instance that does not exist
has no effect. -/
theorem outputs_confined_petSurvey :
    petSurvey.SubmitsAlike ⟨noPets.insert (FieldKey.text ⟨0, 0, 0, 1, 0⟩) (.text "Rex"), .empty⟩
        ⟨noPets, .empty⟩ ∧
      petSurvey.LooksAlike ⟨noPets.insert (FieldKey.text ⟨0, 0, 0, 0, 7⟩) (.text "yes"), .empty⟩
        ⟨noPets, .empty⟩ := by
  have hsame {added key : String} {value : AnswerValue}
      (hne : (noPets.insert added value).get? key ≠ noPets.get? key) : key = added := by
    by_contra hother
    rw [Table.get?_insert, if_neg hother] at hne
    exact hne rfl
  constructor
  · refine (outputs_confined petSurvey .empty _ noPets).2.1 (fun key hne field hcovers => ?_) ?_
    · rw [hsame hne] at hcovers
      rw [hcovers.eq]
      decide
    · decide
  · refine (outputs_confined petSurvey .empty _ noPets).2.2 fun key hne field hcovers => ?_
    rw [hsame hne] at hcovers
    rw [hcovers.eq]
    decide

end Document

end Questionnaire
