import Questionnaire.Export.Body
import Questionnaire.Proofs.Export.Markup
import Questionnaire.Proofs.Question.Codec
import Questionnaire.Validation
import Questionnaire.Visibility

/-! # An exported element carries its question's rule

`Question.ofElement?` reads the opening tag of a question's element back: it undoes the escapes and
decodes the values of the attributes. What it gives is the question without what has no part in its
rule (`Question.exported`, `Question.ofAttributes?_questionAttributes`), so that it is shown for the
same answers of its parent and demands the same of an answer as the question that was written
(`Question.ofElement?_rule`). -/

namespace Questionnaire

/-! ### Values of attributes -/

/-- The value that is given to an attribute. -/
def valueOf? (attributes : List Attribute) (name : String) : Option String :=
  attributes.findSome? fun item => if name = item.name then item.value else none

@[simp] theorem valueOf?_nil (name : String) : valueOf? [] name = none := rfl

@[simp] theorem valueOf?_cons (item value name : String) (attributes : List Attribute) :
    valueOf? (attr item value :: attributes) name =
      if name = item then some value else valueOf? attributes name := by
  rw [valueOf?, List.findSome?_cons]
  by_cases h : name = item <;> simp [attr, h, valueOf?]

@[simp] theorem valueOf?_append (first second : List Attribute) (name : String) :
    valueOf? (first ++ second) name = (valueOf? first name).or (valueOf? second name) :=
  List.findSome?_append

namespace Decoder

variable {α : Type} {decode : Decoder α}

/-- What the value of an attribute is decoded to, if there is one. -/
def ofAttribute? (decode : Decoder α) : Option String → Option (Option α)
  | none => some none
  | some text => (decode.ofText text).toOption.map some

theorem ofAttribute?_compact {toJson : α → Json} {a : Option α}
    (h : ∀ x, a = some x → Reads decode (toJson x) x ∧ (toJson x).Legible 1) :
    decode.ofAttribute? (a.map fun x => (toJson x).compact) = some a := by
  cases a with
  | none => rfl
  | some x =>
      obtain ⟨hreads, hlegible⟩ := h x rfl
      rw [Option.map_some, ofAttribute?, hreads.ofText hlegible (by decide)]
      rfl

end Decoder

/-- Without rules no answer breaks one. -/
theorem ValidationSpec.failure?_empty (answer : AnswerValue) : empty.failure? answer = none := by
  cases answer <;> simp [failure?, empty, fileFailure?, lengthFailure?, numberFailure?,
    patternFailure?]

namespace Question

/-! ### Reading a question's element -/

/-- The question that the attributes of an element describe. -/
def ofAttributes? (attributes : List Attribute) : Option Question := do
  let answerType ← (valueOf? attributes "data-type").bind fun name =>
    AnswerType.names.lookup name
  let required ← (valueOf? attributes "data-required").bind fun name =>
    [("true", true), ("false", false)].lookup name
  let showWhen ← ShowWhen.decode.ofAttribute? (valueOf? attributes "data-show-when")
  let validation ← ValidationSpec.decode.ofAttribute? (valueOf? attributes "data-validation")
  let persons ← (Decoder.list Decoder.string).ofAttribute? (valueOf? attributes "data-applies-to")
  return { blank with
    answerType, required, showWhen, validation
    parent := valueOf? attributes "data-parent-id"
    appliesTo := persons.getD [] }

/-- The question that the opening tag of an element describes. -/
def ofElement? (element : List Char) : Option Question :=
  (Markup.readOpening? element).bind fun (_, attributes) => ofAttributes? attributes

/-- What an element tells of its question: the kind of answer and whether it is required, the parent
and the values that reveal the question unless it is a sub-question, the rules unless there are
none, and the persons of a question for several of them. -/
def exported (question : Question) (isSub : Bool) : Question :=
  { blank with
    answerType := question.answerType
    required := question.required
    parent := if isSub then none else question.parent
    showWhen := if isSub then none else question.parent.bind fun _ => question.showWhen
    validation := question.validation.filter (!·.isEmpty)
    appliesTo := if question.answerType = .radioMultiPerson then question.appliesTo else [] }

theorem lookup_boolText (value : Bool) :
    [("true", true), ("false", false)].lookup (boolText value) = some value := by
  cases value <;> rfl

/-! ### The attributes of a question's element -/

section Attributes

open Markup

variable (question : Question) (key : String) (isSub : Bool)

/-- The names of the attributes that an element may have. -/
def attributeNames (isSub : Bool) : List String :=
  ["class", "data-field-key", "data-question-id", "data-type", "data-required"] ++
    (if isSub then [] else ["data-parent-id", "data-show-when"]) ++
      ["data-validation", "data-applies-to"]

theorem name_mem_attributeNames {item : Attribute}
    (h : item ∈ questionAttributes question key isSub) : item.name ∈ attributeNames isSub := by
  have hparent : ∀ item ∈ parentAttributes question isSub,
      item.name ∈ if isSub then [] else ["data-parent-id", "data-show-when"] := by
    unfold parentAttributes
    cases question.parent with
    | none => simp
    | some parent => cases isSub <;> cases question.showWhen <;> simp [attr]
  have hvalidation : ∀ item ∈ validationAttributes question, item.name = "data-validation" := by
    unfold validationAttributes
    cases question.validation with
    | none => simp
    | some spec => cases hempty : spec.isEmpty <;> simp [hempty, attr]
  have hpersons : ∀ item ∈ personAttributes question, item.name = "data-applies-to" := by
    unfold personAttributes
    split <;> simp [attr]
  simp only [questionAttributes, List.mem_append] at h
  simp only [attributeNames, List.mem_append]
  rcases h with ((h | h) | h) | h
  · exact .inl (.inl (List.mem_map_of_mem (f := (·.name)) h))
  · exact .inl (.inr (hparent item h))
  · exact .inr (hvalidation item h ▸ List.mem_cons_self)
  · exact .inr (hpersons item h ▸ List.mem_cons_of_mem _ List.mem_cons_self)

@[simp] theorem valueOf?_parentAttributes (name : String) :
    valueOf? (parentAttributes question isSub) name =
      if isSub then none
      else if name = "data-parent-id" then question.parent
      else if name = "data-show-when" then
        (question.parent.bind fun _ => question.showWhen).map fun showWhen =>
          showWhen.toJson.compact
      else none := by
  unfold parentAttributes
  cases question.parent with
  | none => simp
  | some parent => cases isSub <;> cases question.showWhen <;> simp

@[simp] theorem valueOf?_validationAttributes (name : String) :
    valueOf? (validationAttributes question) name =
      if name = "data-validation" then
        (question.validation.filter (!·.isEmpty)).map fun spec => spec.toJson.compact
      else none := by
  unfold validationAttributes
  cases question.validation with
  | none => simp
  | some spec => cases hempty : spec.isEmpty <;> simp [hempty, Option.filter_some]

@[simp] theorem valueOf?_personAttributes (name : String) :
    valueOf? (personAttributes question) name =
      if name = "data-applies-to" ∧ question.answerType = .radioMultiPerson then
        some (Json.strings question.appliesTo).compact
      else none := by
  unfold personAttributes
  by_cases hkind : question.answerType = .radioMultiPerson <;> simp [hkind]

/-- The attributes of a question's element are read back. -/
theorem readOpening?_questionWith (content : List Markup) :
    readOpening? (render (questionWith question key isSub content)) =
      some ("div", questionAttributes question key isSub) := by
  have hplain : (attributeNames isSub).all isPlainName = true := by
    cases isSub <;> rfl
  exact readOpening?_chars_append rfl (fun item hitem =>
    List.all_eq_true.1 hplain _ (name_mem_attributeNames question key isSub hitem)) _

end Attributes

/-- What the attributes of a question's element are decoded to. -/
theorem ofAttributes?_questionAttributes {question : Question}
    (h : ∀ spec, question.validation = some spec →
      spec.Sized ∧ ∀ x ∈ spec.numbers, x.ReadsBack) (key : String) (isSub : Bool) :
    ofAttributes? (Markup.questionAttributes question key isSub) =
      some (question.exported isSub) := by
  have htype : valueOf? (Markup.questionAttributes question key isSub) "data-type" =
      some question.answerType.name := by
    simp [Markup.questionAttributes]
  have hrequired : valueOf? (Markup.questionAttributes question key isSub) "data-required" =
      some (boolText question.required) := by
    simp [Markup.questionAttributes]
  have hparent : valueOf? (Markup.questionAttributes question key isSub) "data-parent-id" =
      (question.exported isSub).parent := by
    simp [Markup.questionAttributes, exported]
  have hshowWhen : valueOf? (Markup.questionAttributes question key isSub) "data-show-when" =
      (question.exported isSub).showWhen.map fun showWhen => showWhen.toJson.compact := by
    cases isSub <;> simp [Markup.questionAttributes, exported]
  have hvalidation : valueOf? (Markup.questionAttributes question key isSub) "data-validation" =
      (question.exported isSub).validation.map fun spec => spec.toJson.compact := by
    simp [Markup.questionAttributes, exported]
  have hpersons : valueOf? (Markup.questionAttributes question key isSub) "data-applies-to" =
      (if question.answerType = .radioMultiPerson then some question.appliesTo else none).map
        fun persons => (Json.strings persons).compact := by
    simp [Markup.questionAttributes]
  have hshows (value : ShowWhen) (_ : (question.exported isSub).showWhen = some value) :=
    And.intro value.reads_toJson (value.legible_toJson 0)
  have hrules (spec : ValidationSpec) (hspec : (question.exported isSub).validation = some spec) :
      Decoder.Reads ValidationSpec.decode spec.toJson spec ∧ spec.toJson.Legible 1 := by
    obtain ⟨hsized, hnumbers⟩ := h spec (Option.filter_eq_some_iff.1 hspec).1
    exact ⟨spec.reads_toJson hsized, spec.legible_toJson hsized hnumbers 0⟩
  have hlists (persons : List String) :
      Decoder.Reads (Decoder.list Decoder.string) (Json.strings persons) persons ∧
        (Json.strings persons).Legible 1 :=
    ⟨Decoder.reads_list fun person _ => Decoder.reads_string person,
      Json.legible_map_array fun person _ => .string _ _⟩
  rw [ofAttributes?, htype, hrequired, hparent, hshowWhen, hvalidation, hpersons,
    Decoder.ofAttribute?_compact hshows, Decoder.ofAttribute?_compact hrules,
    Decoder.ofAttribute?_compact fun persons _ => hlists persons]
  simp only [Option.bind_eq_bind, Option.bind_some, AnswerType.lookup_name,
    lookup_boolText]
  by_cases hkind : question.answerType = .radioMultiPerson <;> simp [exported, hkind]

/-! ### What an element tells is enough -/

variable (question : Question) (isSub : Bool)

theorem isVisible_exported (answer : Option AnswerValue) :
    (question.exported false).isVisible answer = question.isVisible answer := by
  cases hparent : question.parent with
  | none => simp [isVisible, isConditional, exported, hparent]
  | some parent =>
      have hrevealed : (question.exported false).isRevealedBy = question.isRevealedBy := by
        funext answer
        simp [isRevealedBy, exported, hparent]
      rw [isVisible, isVisible, hrevealed]
      rfl

/-- Whether an answer is missing does not depend on persons whom the question does not ask about. -/
theorem isMissing_exported (answer : Option AnswerValue) :
    (question.exported isSub).isMissing answer = question.isMissing answer := by
  by_cases hkind : question.answerType = .radioMultiPerson
  · cases answer <;> simp [isMissing, exported, hkind]
  · simp [isMissing, exported, hkind]

/-- Rules are left out only if there are none. -/
theorem validation_exported : (question.exported isSub).validation = question.validation ∨
    (question.exported isSub).validation = none ∧ question.validation = some .empty := by
  show question.validation.filter (!·.isEmpty) = _ ∨ question.validation.filter (!·.isEmpty) = _ ∧ _
  cases question.validation with
  | none => exact .inl rfl
  | some spec =>
      by_cases hempty : spec = .empty
      · exact .inr ⟨by simp [Option.filter_some, ValidationSpec.isEmpty, hempty], by rw [hempty]⟩
      · exact .inl (by simp [Option.filter_some, ValidationSpec.isEmpty, hempty])

theorem failure?_exported (answer : Option AnswerValue) :
    (question.exported isSub).failure? answer = question.failure? answer := by
  unfold failure?
  rw [isMissing_exported]
  rcases question.validation_exported isSub with hsame | ⟨hnone, hempty⟩
  · rw [hsame]
    rfl
  · rw [hnone, hempty]
    cases answer with
    | none => rfl
    | some answer =>
        simp only [ValidationSpec.failure?_empty, ite_self]
        rfl

theorem withMessage_exported :
    (question.exported isSub).withMessage = question.withMessage := by
  funext failure
  unfold withMessage
  rcases question.validation_exported isSub with hsame | ⟨hnone, hempty⟩
  · rw [hsame]
  · rw [hnone, hempty]
    rfl

theorem checkAnswer_exported (answer : Option AnswerValue) :
    (question.exported isSub).checkAnswer answer = question.checkAnswer answer := by
  rw [checkAnswer, checkAnswer, failure?_exported, withMessage_exported]
  rfl

/-- **An exported element carries its question's rule**, if the numbers in it are read back as they
are written: the question that is read from the opening tag of a question's element is shown for the
same answers of its parent and finds the same fault with every answer, and so does that of a
sub-question's element, which tells of no parent. -/
theorem ofElement?_rule (question : Question) (key : String)
    (h : ∀ spec, question.validation = some spec →
      spec.Sized ∧ ∀ x ∈ spec.numbers, x.ReadsBack) :
    (∃ decoded, ofElement? (Markup.render (Markup.question question key)) = some decoded ∧
      ∀ answer, decoded.isVisible answer = question.isVisible answer ∧
        decoded.checkAnswer answer = question.checkAnswer answer) ∧
    ∃ attributes decoded,
      Markup.readOpening? (Markup.render (Markup.questionWith question key true [])) =
        some ("div", attributes) ∧
      (∀ item ∈ attributes, item.name ≠ "data-parent-id" ∧ item.name ≠ "data-show-when") ∧
      ofAttributes? attributes = some decoded ∧
      ∀ answer, decoded.checkAnswer answer = question.checkAnswer answer := by
  constructor
  · refine ⟨question.exported false, ?_, fun answer => ⟨question.isVisible_exported answer,
      question.checkAnswer_exported false answer⟩⟩
    rw [Markup.question, ofElement?, readOpening?_questionWith]
    exact ofAttributes?_questionAttributes h key false
  · refine ⟨_, question.exported true, readOpening?_questionWith question key true [], ?_,
      ofAttributes?_questionAttributes h key true, question.checkAnswer_exported true⟩
    have hnames : ∀ name ∈ attributeNames true,
        name ≠ "data-parent-id" ∧ name ≠ "data-show-when" := by decide
    exact fun item hitem => hnames _ (name_mem_attributeNames question key true hitem)

/-- A question whose texts are full of characters that have a meaning in markup. -/
def quotedQuestion : Question :=
  { blank with
    id := "\"><q>", text := "Number of 'pets' & \"friends\"?", answerType := .number
    required := true, parent := some "a&amp;\"b'", showWhen := some (.any ["\"yes\"", "<\\>"])
    validation := some { ValidationSpec.empty with
      min := some (.ofNat 1), pattern := some "^[\"'&]?\\d+$"
      errorMessage := some "<b>&lt;1</b>" } }

/-- The rule of the question survives all of them. -/
theorem ofElement?_rule_quotedQuestion :
    ∃ decoded, ofElement? (Markup.render (Markup.question quotedQuestion "p0_s0_g0_q0_i0")) =
        some decoded ∧
      decoded.isVisible (some (.text "\"yes\"")) = true ∧
      decoded.checkAnswer none = some ⟨.required, "<b>&lt;1</b>"⟩ := by
  obtain ⟨⟨decoded, hread, hrule⟩, -⟩ := ofElement?_rule quotedQuestion "p0_s0_g0_q0_i0" (by
    rintro spec hspec
    obtain rfl := Option.some.inj hspec
    exact ⟨⟨nofun, nofun⟩, List.forall_mem_singleton.2 Binary64.readsBack_one⟩)
  refine ⟨decoded, hread, ?_, ?_⟩
  · rw [(hrule _).1]
    decide
  · rw [(hrule _).2]
    rfl

end Question

end Questionnaire
