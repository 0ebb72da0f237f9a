import Questionnaire.Proofs.Text.Blank
import Questionnaire.Proofs.Validation.Rules

/-! # Questions for several persons

A required question that asks several persons (`Question.AsksEach`) takes a map of their choices
exactly if each of them has chosen something (`Question.ChosenByAll`), and nobody's choice is
demanded of an answer of another shape: a text that is not blank, a list that is not empty and any
file pass (`AnswerValue.SaysEnough`). `Question.validateAnswer_persons` says both, and
`Question.exists_valid_without_choices` shows such a text. -/

namespace Questionnaire

/-- An answer that is not missing whoever is asked: a text that is not blank, a list that is not
empty, or a file. -/
inductive AnswerValue.SaysEnough : AnswerValue → Prop
  | text {value : String} (h : Text.trim value.toList ≠ []) : SaysEnough (.text value)
  | multi {values : List String} (h : values ≠ []) : SaysEnough (.multi values)
  | file (descriptor : FileDescriptor) : SaysEnough (.file descriptor)

namespace Question

variable {question : Question} {answer : Option AnswerValue}

/-- The question has to be answered and asks somebody for a choice. -/
structure AsksEach (question : Question) : Prop where
  kind : question.answerType = .radioMultiPerson
  required : question.required = true
  persons : question.appliesTo ≠ []

/-- Every person that is asked has chosen something that is not blank. -/
def ChosenByAll (question : Question) (choices : Table String String) : Prop :=
  ∀ person ∈ question.appliesTo, ∃ choice, choices.get? person = some choice ∧
    Text.trim choice.toList ≠ []

theorem missingChoice_eq_false_iff {choices : Table String String} {person : String} :
    missingChoice choices person = false ↔ ∃ choice, choices.get? person = some choice ∧
      Text.trim choice.toList ≠ [] := by
  rw [missingChoice]
  cases choices.get? person with
  | none => simp
  | some choice => simp [Text.blank_eq_false_iff]

theorem isMissing_perPerson_eq_false_iff (h : question.AsksEach) {choices : Table String String} :
    question.isMissing (some (.perPerson choices)) = false ↔ question.ChosenByAll choices := by
  have hpersons :
      (question.answerType = .radioMultiPerson && !question.appliesTo.isEmpty) = true := by
    simp [h.kind, h.persons]
  rw [isMissing, if_pos hpersons, List.any_eq_false]
  exact forall₂_congr fun person _ =>
    (Bool.not_eq_true _).to_iff.trans missingChoice_eq_false_iff

theorem isMissing_eq_false_iff_saysEnough {value : AnswerValue}
    (h : ∀ choices, value ≠ .perPerson choices) :
    question.isMissing (some value) = false ↔ value.SaysEnough := by
  cases value with
  | text value =>
      refine Text.blank_eq_false_iff.trans ⟨.text, fun h => ?_⟩
      cases h with
      | text h => exact h
  | multi values =>
      refine List.isEmpty_eq_false_iff.trans ⟨.multi, fun h => ?_⟩
      cases h with
      | multi h => exact h
  | file descriptor => exact ⟨fun _ => .file descriptor, fun _ => rfl⟩
  | perPerson choices => exact (h choices rfl).elim

/-- The answer of a required question is valid if it is there and the rules of the spec, if there is
one, are kept. -/
theorem validateAnswer_eq_none_iff_of_required (hkind : question.answerType ≠ .displayText)
    (hrequired : question.required = true) : question.validateAnswer answer = none ↔
      question.isMissing answer = false ∧ ∀ value spec, answer = some value →
        question.validation = some spec → ∀ broken, ¬ spec.Breaks value broken := by
  rw [validateAnswer, Option.map_eq_none_iff, checkAnswer_eq_none_iff]
  constructor
  · intro h
    have hnone := h.resolve_left hkind
    have hmissing : question.isMissing answer = false :=
      eq_false_of_ne_true fun hmissing => hnone _ (.required hrequired hmissing)
    refine ⟨hmissing, ?_⟩
    rintro value spec rfl hspec broken hbroken
    obtain ⟨_, hvalue, htruthy⟩ := exists_truthy_of_isMissing_eq_false hmissing
    obtain rfl := Option.some.inj hvalue
    exact hnone broken (.rule hspec htruthy hbroken)
  · rintro ⟨hmissing, hspecs⟩
    refine .inr fun broken hbroken => ?_
    cases hbroken with
    | required _ htrue => exact Bool.false_ne_true (hmissing.symm.trans htrue)
    | rule hspec _ h => exact hspecs _ _ rfl hspec broken h

/-- **A map of choices is valid exactly if every person has chosen**, and no answer at all never is.
An answer of another shape is valid if it says enough and breaks no rule of the spec, whoever the
question asks. -/
theorem validateAnswer_persons (h : question.AsksEach) :
    question.validateAnswer none ≠ none ∧
    (∀ choices, question.validateAnswer (some (.perPerson choices)) = none ↔
      question.ChosenByAll choices) ∧
    ∀ value, (∀ choices, value ≠ .perPerson choices) →
      (question.validateAnswer (some value) = none ↔ value.SaysEnough ∧
        ∀ spec, question.validation = some spec → ∀ broken, ¬ spec.Breaks value broken) := by
  have hkind : question.answerType ≠ .displayText := by
    rw [h.kind]
    decide
  have hvalid {answer : Option AnswerValue} :=
    @validateAnswer_eq_none_iff_of_required question answer hkind h.required
  refine ⟨fun hnone => ?_, fun choices => ?_, fun value hother => ?_⟩
  · cases (hvalid.1 hnone).1
  · refine hvalid.trans ((and_iff_left ?_).trans (isMissing_perPerson_eq_false_iff h))
    intro value spec hvalue _
    obtain rfl := Option.some.inj hvalue
    exact spec.not_breaks_perPerson choices
  · refine hvalid.trans (and_congr (isMissing_eq_false_iff_saysEnough hother) ?_)
    constructor
    · exact fun h spec => h value spec rfl
    · intro h other spec hvalue
      obtain rfl := Option.some.inj hvalue
      exact h spec

/-- A question that a couple has to answer. -/
def maritalStatus : Question :=
  { blank with
    answerType := .radioMultiPerson, required := true
    options := [.plain "single", .plain "married"], appliesTo := ["Applicant", "Spouse"] }

/-- One person cannot answer for both. -/
theorem validateAnswer_persons_maritalStatus : maritalStatus.AsksEach ∧
    maritalStatus.validateAnswer (some (.perPerson (.ofList [("Applicant", "single")]))) ≠ none ∧
    maritalStatus.validateAnswer (some (.perPerson
      (.ofList [("Applicant", "married"), ("Spouse", " married ")]))) = none := by
  have h : maritalStatus.AsksEach := ⟨rfl, rfl, by decide⟩
  refine ⟨h, fun hvalid => ?_, ((validateAnswer_persons h).2.1 _).2 ?_⟩
  · obtain ⟨choice, hchoice, -⟩ := ((validateAnswer_persons h).2.1 _).1 hvalid "Spouse" (by decide)
    cases hchoice
  · simp only [ChosenByAll, maritalStatus, List.forall_mem_cons]
    exact ⟨⟨"married", by decide, by decide⟩, ⟨" married ", by decide, by decide⟩, nofun⟩

/-- A single text passes for the answers of both. -/
theorem exists_valid_without_choices : ∃ question answer, AsksEach question ∧
    question.validateAnswer answer = none ∧
      ¬ ∃ choices, answer = some (.perPerson choices) ∧ question.ChosenByAll choices :=
  ⟨maritalStatus, some (.text "married"), ⟨rfl, rfl, by decide⟩, by decide, by simp⟩

end Question

end Questionnaire
