import Questionnaire.Proofs.Address
import Questionnaire.Submission.Interactive
import Questionnaire.Validation

/-! # Stores that agree beside a key

Everything that is said of a question at a key is read off the answers at that key and at those
that extend it: the keys of its sub-questions and of the free texts beside its choices. Two stores
that agree there (`AnswerStore.AgreeBeside`), one at one key and the other at another, therefore
give the same entry in a submission (`AnswerStore.AgreeBeside.answerEntry`); for the entry alone the
key and its free texts are enough (`AnswerStore.AgreeAt.answerEntry`). What is said of a field is
said of the parts of its question, each at its own suffix of the field's key: the messages
(`entriesFor_eq`) as well as the entries (`enteredQuestions_eq_map_parts`). -/

namespace Questionnaire

namespace AnswerStore

/-- One store holds at a key, and at those of the free texts beside its choices, what the other one
holds at another key. -/
structure AgreeAt (answers former : AnswerStore) (key origin : String) : Prop where
  answer : answers.get? key = former.get? origin
  details : ∀ n, answers.get? (optionDetailKey key n) = former.get? (optionDetailKey origin n)

namespace AgreeAt

variable {answers former : AnswerStore} {key origin : String}

theorem detailText? (h : answers.AgreeAt former key origin) (n : Nat) :
    Questionnaire.detailText? answers key n = Questionnaire.detailText? former origin n := by
  rw [Questionnaire.detailText?, Questionnaire.detailText?, h.details]

theorem optionDetails (h : answers.AgreeAt former key origin) (question : Question) :
    Questionnaire.optionDetails answers key question =
      Questionnaire.optionDetails former origin question := by
  simp only [Questionnaire.optionDetails, h.answer, h.detailText?]

/-- The question has the same entry in a submission. -/
theorem answerEntry (h : answers.AgreeAt former key origin) (question : Question) :
    Questionnaire.answerEntry answers key question =
      Questionnaire.answerEntry former origin question := by
  simp only [Questionnaire.answerEntry, h.answer, h.optionDetails]

end AgreeAt

/-- One store holds beside a key what the other one holds beside another key. -/
def AgreeBeside (answers former : AnswerStore) (key origin : String) : Prop :=
  ∀ rest : String, EndsCoordinate rest.toList →
    answers.get? (key ++ rest) = former.get? (origin ++ rest)

namespace AgreeBeside

variable {answers former : AnswerStore} {key origin : String}

theorem symm (h : answers.AgreeBeside former key origin) :
    former.AgreeBeside answers origin key := fun rest hends => (h rest hends).symm

theorem get? (h : answers.AgreeBeside former key origin) :
    answers.get? key = former.get? origin := by
  have := h "" endsCoordinate_nil
  rwa [String.append_empty, String.append_empty] at this

theorem append (h : answers.AgreeBeside former key origin) {suffix : String}
    (hends : EndsCoordinate suffix.toList) :
    answers.AgreeBeside former (key ++ suffix) (origin ++ suffix) := by
  intro rest hrest
  rw [String.append_assoc, String.append_assoc]
  refine h (suffix ++ rest) ?_
  rw [String.toList_append]
  exact hends.append hrest

theorem agreeAt (h : answers.AgreeBeside former key origin) :
    answers.AgreeAt former key origin where
  answer := h.get?
  details n := by
    rw [optionDetailKey_eq key, optionDetailKey_eq origin]
    exact h _ (endsCoordinate_optionDetailKey n)

/-- The question has the same entry in a submission. -/
theorem answerEntry (h : answers.AgreeBeside former key origin) (question : Question) :
    Questionnaire.answerEntry answers key question =
      Questionnaire.answerEntry former origin question :=
  h.agreeAt.answerEntry question

end AgreeBeside

end AnswerStore

/-! ### Questions and their sub-questions -/

/-- A question and its sub-questions, with what follows the question's key in theirs. -/
def Question.parts (question : Question) : List (String × Question) :=
  ("", question) :: question.subQuestions.zipIdx.map fun (sub, n) => (subKey "" n, sub)

theorem Question.endsCoordinate_of_mem_parts {question part : Question} {suffix : String}
    (h : (suffix, part) ∈ question.parts) : EndsCoordinate suffix.toList := by
  rcases List.mem_cons.1 h with heq | h
  · rw [(Prod.mk.inj heq).1]
    exact endsCoordinate_nil
  · obtain ⟨⟨sub, n⟩, -, heq⟩ := List.mem_map.1 h
    rw [← (Prod.mk.inj heq).1]
    exact endsCoordinate_subKey n

theorem Question.suffix_of_mem_parts {question part : Question} {suffix : String}
    (h : (suffix, part) ∈ question.parts) : suffix = "" ∨ ∃ n, suffix = subKey "" n := by
  rcases List.mem_cons.1 h with heq | h
  · exact .inl (Prod.mk.inj heq).1
  · obtain ⟨⟨sub, n⟩, -, heq⟩ := List.mem_map.1 h
    exact .inr ⟨n, (Prod.mk.inj heq).1.symm⟩

/-- What is wrong with the answers of a field is what is wrong with its parts. -/
theorem entriesFor_eq (answers : AnswerStore) (field : FieldKey) (question : Question) :
    entriesFor answers field question = question.parts.filterMap fun (suffix, part) =>
      entryFor answers (field.text ++ suffix) part := by
  rw [entriesFor, Question.parts, List.filterMap_cons, List.filterMap_map]
  simp only [FieldKey.sub_eq, String.append_empty, Function.comp_def]
  cases entryFor answers field.text question with
  | none => rfl
  | some entry => rfl

theorem mem_entriesFor_iff {answers : AnswerStore} {field : FieldKey} {question : Question}
    {key message : String} :
    (key, message) ∈ entriesFor answers field question ↔ ∃ suffix part,
      (suffix, part) ∈ question.parts ∧ key = field.text ++ suffix ∧
        part.validateAnswer (answers.get? key) = some message := by
  rw [entriesFor_eq]
  simp only [List.mem_filterMap, Prod.exists, entryFor, Option.map_eq_some_iff, Prod.mk.injEq]
  constructor
  · rintro ⟨suffix, part, hpart, _, hmessage, rfl, rfl⟩
    exact ⟨suffix, part, hpart, rfl, hmessage⟩
  · rintro ⟨suffix, part, hpart, rfl, hmessage⟩
    exact ⟨suffix, part, hpart, message, hmessage, rfl, rfl⟩

/-- Where all keys of a field are dropped or none is, its messages are dropped together. -/
theorem filter_entriesFor {answers : AnswerStore} {field : FieldKey} {question : Question}
    {drops : String → Prop} [DecidablePred drops] {gone : Prop} [Decidable gone]
    (h : ∀ rest : String, EndsCoordinate rest.toList → (drops (field.text ++ rest) ↔ gone)) :
    (entriesFor answers field question).filter (fun entry => ¬ drops entry.1) =
      if gone then [] else entriesFor answers field question := by
  have hdrops : ∀ entry ∈ entriesFor answers field question, drops entry.1 ↔ gone := by
    rintro ⟨text, message⟩ hmem
    obtain ⟨suffix, part, hpart, rfl, -⟩ := mem_entriesFor_iff.1 hmem
    exact h suffix (Question.endsCoordinate_of_mem_parts hpart)
  split
  · rename_i hgone
    rw [List.filter_eq_nil_iff]
    intro entry hentry
    simpa using (hdrops entry hentry).2 hgone
  · rename_i hkept
    rw [List.filter_eq_self]
    intro entry hentry
    simpa using fun hdropped => hkept ((hdrops entry hentry).1 hdropped)

/-- The parts of a question that have an entry if it is shown. -/
def Question.enteredParts (question : Question) : List (String × Question) :=
  ("", question) :: question.parts.tail.filter (·.2.answerType.isAnswerable)

theorem Question.mem_parts_of_mem_enteredParts {question : Question} {part : String × Question}
    (h : part ∈ question.enteredParts) : part ∈ question.parts := by
  rcases List.mem_cons.1 h with rfl | h
  · exact List.mem_cons_self
  · exact List.mem_of_mem_tail (List.mem_filter.1 h).1

theorem enteredQuestions_eq_map_parts (field : FieldKey) (question : Question) :
    enteredQuestions field question = question.enteredParts.map fun (suffix, part) =>
      (field.text ++ suffix, part) := by
  rw [enteredQuestions, Question.enteredParts, Question.parts, List.tail_cons, List.filter_map,
    List.map_cons, List.map_map, ← List.filterMap_eq_map, List.filterMap_filter]
  simp only [FieldKey.sub_eq, String.append_empty, Function.comp_def]

end Questionnaire
