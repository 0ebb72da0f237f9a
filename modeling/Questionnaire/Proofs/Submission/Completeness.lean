import Questionnaire.Proofs.Submission.Coverage

/-! # A form with nothing wrong is submitted complete

The rule that a question be answered has its own notion of a missing answer, and the submissions
leave out what says nothing. An answer that is not missing says something
(`Question.exists_truthy_of_isMissing_eq_false`), so that the field of a required question is held
by both submissions if nothing is wrong with it (`Document.Submits`). What they hold is empty for a
file without a name only (`AnswerValue.isVacant_submitted_iff`). `Document.validate_complete` says
this of a whole form, and that a field that is not shown is not reported. -/

namespace Questionnaire

/-! ### Missing answers and empty values -/

/-- Whether a value is null or an empty text, list or object. -/
def Json.isVacant : Json → Bool
  | .null => true
  | .string text => text == ""
  | .array items => items.isEmpty
  | .object entries => entries.isEmpty
  | _ => false

/-- Whoever a question asks about, an answer that says nothing is missing. -/
theorem Question.isMissing_of_isTruthy_eq_false (question : Question) {answer : AnswerValue}
    (h : answer.isTruthy = false) : question.isMissing (some answer) = true := by
  cases answer with
  | text value =>
      rw [AnswerValue.isTruthy, bne_eq_false_iff_eq] at h
      rw [h]
      rfl
  | multi values => simpa [AnswerValue.isTruthy, isMissing] using h
  | file descriptor => cases h
  | perPerson choices =>
      have hempty : choices.isEmpty = true := by simpa [AnswerValue.isTruthy] using h
      rw [isMissing]
      split
      · -- somebody has to choose, and nobody has chosen
        rename_i hpersons
        rw [Bool.and_eq_true, Bool.not_eq_true', List.isEmpty_eq_false_iff] at hpersons
        obtain ⟨person, hperson⟩ := List.exists_mem_of_ne_nil _ hpersons.2
        obtain rfl : choices = .empty := by
          cases choices
          simpa [Table.isEmpty, Table.empty] using hempty
        exact List.any_eq_true.2 ⟨person, hperson, rfl⟩
      · exact hempty

/-- An answer that is not missing says something. -/
theorem Question.exists_truthy_of_isMissing_eq_false {question : Question}
    {answer : Option AnswerValue} (h : question.isMissing answer = false) :
    ∃ value, answer = some value ∧ value.isTruthy = true := by
  cases answer with
  | none => cases h
  | some value =>
      refine ⟨value, rfl, ?_⟩
      by_contra hfalsy
      rw [question.isMissing_of_isTruthy_eq_false (eq_false_of_ne_true hfalsy)] at h
      cases h

namespace AnswerValue

variable {answer : AnswerValue}

theorem submitted_ne_null (answer : AnswerValue) : answer.submitted ≠ .null := by
  cases answer <;> intro h <;> cases h

/-- An answer that says something is submitted as an empty value only if it is a file without a
name. -/
theorem isVacant_submitted_iff (h : answer.isTruthy = true) :
    answer.submitted.isVacant = true ↔ ∃ file, answer = .file file ∧ file.name = "" := by
  cases answer with
  | text value =>
      rw [isTruthy, bne_iff_ne] at h
      simp [submitted, toJson, Json.isVacant, h]
  | multi values =>
      rw [isTruthy, Bool.not_eq_true'] at h
      simpa [submitted, toJson, Json.strings, Json.isVacant] using h
  | file descriptor => simp [submitted, Json.isVacant]
  | perPerson choices =>
      rw [isTruthy, Bool.not_eq_true'] at h
      simpa [submitted, toJson, choicesJson, Json.isVacant, Table.isEmpty] using h

end AnswerValue

/-- A required question without an answer is reported. -/
theorem Question.validateAnswer_ne_none {question : Question} {answer : Option AnswerValue}
    (hanswerable : question.answerType.isAnswerable = true) (hrequired : question.required = true)
    (hmissing : question.isMissing answer = true) : question.validateAnswer answer ≠ none := by
  simp [validateAnswer, checkAnswer, failure?, hanswerable, hrequired, hmissing]

namespace Document

variable {document : Document} {state : FormState} {exportedAt : String} {field : FieldKey}
  {question : Question} {answer : AnswerValue}

/-- Both submissions hold the answer of a field: the one by position at the path of the field, the
other one in the entry of the field's question. -/
structure Submits (document : Document) (state : FormState) (exportedAt : String)
    (field : FieldKey) (question : Question) (answer : AnswerValue) : Prop where
  leaf : (document.indexedSubmission state exportedAt).at?
    ("formData" :: IndexedTree.path field.groupKey field.instanceIndex (leafName field)) =
      some answer.submitted
  entry : ∃ entry, document.Enters state (document.interactiveSubmission state exportedAt)
    field.groupKey field.instanceIndex field.text question entry ∧ entry.answer = answer.submitted

/-- An answer that says something is submitted if its question takes an answer and is shown. -/
theorem Answered.submits (h : document.Answered state field question answer)
    (exportedAt : String) : document.Submits state exportedAt field question answer where
  leaf := by
    rw [at?_indexedSubmission, IndexedTree.at?_path, leaf?_indexedTree_eq_some_iff]
    exact ⟨field, "", .answer h, rfl, rfl, String.append_empty.symm⟩
  entry := by
    refine ⟨_, enters_iff.2 ⟨field, question, "", mem_visibleFields_iff.2 ⟨h.found, h.visible⟩,
      h.answerable, List.mem_cons_self, rfl, rfl, String.append_empty.symm, rfl⟩, ?_⟩
    rw [answerEntry, h.stored]
    rfl

/-- A required question with which nothing is wrong has been answered. -/
theorem exists_answered_of_validate_eq_nil (h : document.validate state = [])
    (hquestion : document.question? field.coords = some question)
    (hrequired : question.required = true) (hanswerable : question.answerType.isAnswerable = true)
    (hvisible : (document.visibility state .visible).get? field = some true) :
    ∃ answer, document.Answered state field question answer := by
  have hmissing : question.isMissing (state.answers.get? field.text) = false := by
    by_contra hmissing
    rw [Bool.not_eq_false] at hmissing
    obtain ⟨message, hmessage⟩ := Option.ne_none_iff_exists'.1 (Question.validateAnswer_ne_none
      hanswerable hrequired hmissing)
    have hreported : (field.text, message) ∈ document.validate state :=
      mem_validate_iff.2 ⟨field, question, "", question, mem_visibleFields_iff.2
        ⟨hquestion, hvisible⟩, List.mem_cons_self, String.append_empty.symm, hmessage⟩
    rw [h] at hreported
    cases hreported
  obtain ⟨answer, hstored, htruthy⟩ := Question.exists_truthy_of_isMissing_eq_false hmissing
  exact ⟨answer, hquestion, hanswerable, hvisible, hstored, htruthy⟩

/-- Nothing is said of a field that is not shown. -/
theorem notMem_validate_of_not_visible
    (h : (document.visibility state .visible).get? field ≠ some true) (message : String) :
    (field.text, message) ∉ document.validate state := by
  intro hreported
  obtain ⟨other, question, suffix, part, hvisible, hpart, hkey, -⟩ := mem_validate_iff.1 hreported
  rw [← String.append_empty (s := field.text)] at hkey
  obtain ⟨rfl, -⟩ := @FieldKey.text_append_inj _ _ "" _ endsCoordinate_nil
    (Question.endsCoordinate_of_mem_parts hpart) hkey
  exact h (mem_visibleFields_iff.1 hvisible).2

/-- **A form with nothing wrong is submitted complete**: if nothing is reported, every required
question that takes an answer and is shown has one that both submissions hold. It is not null, and
empty only if it is a file without a name. A field that is not shown is never reported. -/
theorem validate_complete (document : Document) (state : FormState) (exportedAt : String) :
    (document.validate state = [] → ∀ (field : FieldKey) (question : Question),
      document.question? field.coords = some question → question.required = true →
      question.answerType.isAnswerable = true →
      (document.visibility state .visible).get? field = some true →
        ∃ answer, document.Submits state exportedAt field question answer ∧
          answer.submitted ≠ .null ∧
          (answer.submitted.isVacant = true ↔ ∃ file, answer = .file file ∧ file.name = "")) ∧
    ∀ (field : FieldKey), (document.visibility state .visible).get? field ≠ some true →
      ∀ message, (field.text, message) ∉ document.validate state := by
  refine ⟨fun h field question hquestion hrequired hanswerable hvisible => ?_,
    fun field => notMem_validate_of_not_visible⟩
  obtain ⟨answer, hanswered⟩ :=
    exists_answered_of_validate_eq_nil h hquestion hrequired hanswerable hvisible
  exact ⟨answer, hanswered.submits exportedAt, answer.submitted_ne_null,
    AnswerValue.isVacant_submitted_iff hanswered.truthy⟩

/-- A form that demands a name and a certificate. -/
def registration : Document :=
  ⟨"registration.pdf", [⟨"", 1, [⟨"", [⟨"", false, [
    { Question.blank with id := "name", required := true },
    { Question.blank with id := "certificate", answerType := .file, required := true }]⟩]⟩]⟩]⟩

/-- The answers of a person whose certificate is a file without a name. -/
def namelessFile : FormState :=
  ⟨.ofList [("p0_s0_g0_q0_i0", .text "Rex"), ("p0_s0_g0_q1_i0", .file ⟨"", 0, none⟩)], .empty⟩

/-- The name that is demanded is submitted. -/
theorem validate_complete_registration :
    ∃ answer, registration.Submits namelessFile "2026-01-01T00:00:00Z" ⟨0, 0, 0, 0, 0⟩
      { Question.blank with id := "name", required := true } answer ∧ answer.submitted ≠ .null := by
  obtain ⟨answer, hsubmits, hne, -⟩ :=
    (validate_complete registration namelessFile "2026-01-01T00:00:00Z").1 (by decide)
      ⟨0, 0, 0, 0, 0⟩ _ rfl rfl rfl (by decide)
  exact ⟨answer, hsubmits, hne⟩

/-- A file without a name satisfies the rule that there be one, and is submitted as an empty
text. -/
theorem exists_vacant_of_validate_eq_nil :
    registration.validate namelessFile = [] ∧ ∃ question,
      registration.question? ⟨0, 0, 0, 1⟩ = some question ∧ question.required = true ∧
        question.answerType.isAnswerable = true ∧
          (registration.visibility namelessFile .visible).get? ⟨0, 0, 0, 1, 0⟩ = some true ∧
            (registration.indexedSubmission namelessFile "2026-01-01T00:00:00Z").at?
              ("formData" :: IndexedTree.path ⟨0, 0, 0⟩ 0 (leafName ⟨0, 0, 0, 1, 0⟩)) =
                some (.string "") := by
  have hanswered : registration.Answered namelessFile ⟨0, 0, 0, 1, 0⟩
      { Question.blank with id := "certificate", answerType := .file, required := true }
      (.file ⟨"", 0, none⟩) := ⟨rfl, rfl, by decide, by decide, rfl⟩
  exact ⟨by decide, _, rfl, rfl, rfl, by decide, (hanswered.submits "2026-01-01T00:00:00Z").leaf⟩

end Document

end Questionnaire
