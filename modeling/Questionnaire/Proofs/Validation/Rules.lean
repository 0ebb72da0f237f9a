import Questionnaire.Proofs.Submission.Completeness

/-! # Each rule on its own

The rules of a question are tried one after another, and what an answer is decides which of them are
tried at all. `Question.Breaks` judges each rule for itself, by the question and the answer alone.
What is found in trying them is the first of the broken rules (`FirstOf`), and `FirstOf` is put
together as the search is (`FirstOf.orElse`). `Question.checkAnswer_first` says this of all rules,
and that a rule that is dropped takes nothing but its own failure with it
(`Question.breaks_without_iff`). -/

namespace Questionnaire

/-! ### Broken rules -/

/-- The place of a rule among all. -/
def Rule.rank : Rule → Nat
  | .required => 0
  | .accept => 1
  | .maxSize => 2
  | .minLength => 3
  | .maxLength => 4
  | .min => 5
  | .max => 6
  | .pattern => 7

/-- The length of an answer that has one: the 16-bit units of a text, the items of a list. -/
inductive AnswerValue.HasLength : AnswerValue → Nat → Prop
  | text (value : String) : HasLength (.text value) (Text.units value)
  | multi (values : List String) : HasLength (.multi values) values.length

/-- The spec has a rule that an answer breaks, with what is said of it by default. -/
inductive ValidationSpec.Breaks (spec : ValidationSpec) : AnswerValue → RuleFailure → Prop
  | accept {file accept} (hrule : spec.accept = some accept)
      (hfile : file.isAccepted accept = false) :
      Breaks spec (.file file) ⟨.accept, "File type must be one of: " ++ accept⟩
  | maxSize {file limit} (hrule : spec.maxSize = some limit)
      (hsize : exceedsMegabytes file.size limit = true) :
      Breaks spec (.file file)
        ⟨.maxSize, "File must be smaller than " ++ .ofList limit.plainText ++ " MB"⟩
  | minLength {answer length limit} (hrule : spec.minLength = some limit)
      (hlength : answer.HasLength length) (hshort : length < limit) :
      Breaks spec answer ⟨.minLength, s!"Minimum length is {limit}"⟩
  | maxLength {answer length limit} (hrule : spec.maxLength = some limit)
      (hlength : answer.HasLength length) (hlong : limit < length) :
      Breaks spec answer ⟨.maxLength, s!"Maximum length is {limit}"⟩
  | min {text x limit} (hrule : spec.min = some limit) (hnumber : typedNumber? text = some x)
      (hlow : x.lt limit = true) :
      Breaks spec (.text text) ⟨.min, "Value must be at least " ++ .ofList limit.plainText⟩
  | max {text x limit} (hrule : spec.max = some limit) (hnumber : typedNumber? text = some x)
      (hhigh : limit.lt x = true) :
      Breaks spec (.text text) ⟨.max, "Value must be at most " ++ .ofList limit.plainText⟩
  | pattern {text pattern} (hrule : spec.pattern = some pattern) (hne : pattern ≠ "")
      (hnone : patternMatches pattern text = .ok false) :
      Breaks spec (.text text) ⟨.pattern, "Invalid format"⟩

/-- The question has a rule that an answer or its absence breaks, with what is said of it by
default. -/
inductive Question.Breaks (question : Question) : Option AnswerValue → RuleFailure → Prop
  | required {answer} (hrequired : question.required = true)
      (hmissing : question.isMissing answer = true) :
      Breaks question answer ⟨.required, "This field is required"⟩
  | rule {spec answer failure} (hspec : question.validation = some spec)
      (htruthy : answer.isTruthy = true) (h : spec.Breaks answer failure) :
      Breaks question (some answer) failure

/-! ### The first broken rule -/

/-- What has been found is the first of the failures; nothing has been found if there is none. -/
structure FirstOf (broken : RuleFailure → Prop) (found : Option RuleFailure) : Prop where
  some_iff : ∀ failure, found = some failure ↔
    broken failure ∧ ∀ other, broken other → failure.rule.rank ≤ other.rule.rank
  none_iff : found = none ↔ ∀ other, ¬ broken other

namespace FirstOf

variable {broken later : RuleFailure → Prop} {found next : Option RuleFailure}

theorem congr (h : FirstOf broken found) (hsame : ∀ failure, broken failure ↔ later failure) :
    FirstOf later found := by
  obtain rfl : broken = later := funext fun failure => propext (hsame failure)
  exact h

theorem of_none (h : ∀ failure, ¬ broken failure) : FirstOf broken none where
  some_iff failure := by simp [h failure]
  none_iff := by simp [h]

theorem failIf (condition : Bool) (rule : Rule) (message : String) :
    FirstOf (fun failure => condition = true ∧ failure = ⟨rule, message⟩)
      (Questionnaire.failIf condition rule message) := by
  cases condition with
  | false => exact of_none (by simp)
  | true =>
      constructor
      · intro failure
        simp only [Questionnaire.failIf, if_true, Option.some.injEq, true_and]
        constructor
        · rintro rfl
          exact ⟨rfl, fun other hother => hother ▸ Nat.le_refl _⟩
        · exact fun h => h.1.symm
      · simp [Questionnaire.failIf]

/-- A rule that needs a value is broken only if there is one. -/
theorem bind {α : Type} {broken : α → RuleFailure → Prop} {search : α → Option RuleFailure}
    (value : Option α) (h : ∀ a, FirstOf (broken a) (search a)) :
    FirstOf (fun failure => ∃ a, value = some a ∧ broken a failure) (value.bind search) := by
  cases value with
  | none => exact of_none (by simp)
  | some a => exact (h a).congr fun failure => by simp

/-- If nothing has been found among the first rules, the later ones decide. -/
theorem orElse (h : FirstOf broken found) (hnext : FirstOf later next)
    (hlt : ∀ a b, broken a → later b → a.rule.rank < b.rule.rank) :
    FirstOf (fun failure => broken failure ∨ later failure) (found <|> next) := by
  rw [Option.orElse_eq_orElse, Option.orElse_eq_or]
  cases hfound : found with
  | none =>
      have hnone := h.none_iff.1 hfound
      rw [Option.none_or]
      exact hnext.congr fun failure => by simp [hnone failure]
  | some first =>
      have hfirst := ((h.some_iff first).1 hfound).1
      rw [Option.some_or]
      constructor
      · intro failure
        rw [← hfound, h.some_iff failure]
        constructor
        · rintro ⟨hbroken, hleast⟩
          exact ⟨.inl hbroken, fun other hother => hother.elim (hleast other)
            fun hother => Nat.le_of_lt (hlt failure other hbroken hother)⟩
        · rintro ⟨hbroken | hlater, hleast⟩
          · exact ⟨hbroken, fun other hother => hleast other (.inl hother)⟩
          · -- a later rule does not come before the one found
            have := hlt first failure hfirst hlater
            have := hleast first (.inl hfirst)
            omega
      · simp only [reduceCtorEq, false_iff, not_forall, not_not]
        exact ⟨first, .inl hfirst⟩

/-- What holds under a condition only is broken under it only. -/
theorem ite (h : FirstOf broken found) (condition : Bool) :
    FirstOf (fun failure => condition = true ∧ broken failure)
      (if condition then found else none) := by
  cases condition with
  | false => exact of_none (by simp)
  | true => exact h.congr fun failure => by simp

/-- Two limits, of which the one is tried before the other. -/
theorem limits {α β : Type} (lower : Option α) (upper : Option β) (low : α → Bool) (high : β → Bool)
    {rule rule' : Rule} (hlt : rule.rank < rule'.rank) (message : α → String)
    (message' : β → String) :
    FirstOf (fun failure =>
        (∃ limit, lower = some limit ∧ low limit = true ∧ failure = ⟨rule, message limit⟩) ∨
        ∃ limit, upper = some limit ∧ high limit = true ∧ failure = ⟨rule', message' limit⟩)
      ((lower.bind fun limit => Questionnaire.failIf (low limit) rule (message limit))
        <|> upper.bind fun limit => Questionnaire.failIf (high limit) rule' (message' limit)) := by
  refine (bind lower fun limit => failIf (low limit) rule (message limit)).orElse
    (bind upper fun limit => failIf (high limit) rule' (message' limit)) ?_
  rintro _ _ ⟨_, -, -, rfl⟩ ⟨_, -, -, rfl⟩
  exact hlt

end FirstOf

/-! ### The rules of a spec -/

namespace ValidationSpec

variable (spec : ValidationSpec)

theorem firstOf_fileFailure? (file : FileDescriptor) :
    FirstOf (spec.Breaks (.file file)) (fileFailure? spec file) := by
  refine (FirstOf.limits spec.accept spec.maxSize (fun accept => !file.isAccepted accept)
    (exceedsMegabytes file.size) (by decide) _ _).congr fun failure => ⟨?_, fun h => ?_⟩
  · rintro (⟨accept, hrule, hfile, rfl⟩ | ⟨limit, hrule, hsize, rfl⟩)
    · exact .accept hrule (by simpa using hfile)
    · exact .maxSize hrule hsize
  · cases h with
    | accept hrule hfile => exact .inl ⟨_, hrule, by simp [hfile], rfl⟩
    | maxSize hrule hsize => exact .inr ⟨_, hrule, hsize, rfl⟩
    | minLength _ hlength => cases hlength
    | maxLength _ hlength => cases hlength

/-- The failures of a length. -/
theorem firstOf_lengthFailure? (length : Nat) :
    FirstOf (fun failure =>
        (∃ limit, spec.minLength = some limit ∧ length < limit ∧
          failure = ⟨.minLength, s!"Minimum length is {limit}"⟩) ∨
        ∃ limit, spec.maxLength = some limit ∧ limit < length ∧
          failure = ⟨.maxLength, s!"Maximum length is {limit}"⟩)
      (lengthFailure? spec length) :=
  (FirstOf.limits spec.minLength spec.maxLength (fun limit => length < limit)
    (fun limit => limit < length) (by decide) _ _).congr fun failure => by
      simp only [decide_eq_true_eq]

/-- The failures of a typed number. -/
theorem firstOf_numberFailure? (text : String) :
    FirstOf (fun failure => ∃ x, typedNumber? text = some x ∧
        ((∃ limit, spec.min = some limit ∧ x.lt limit = true ∧
          failure = ⟨.min, "Value must be at least " ++ .ofList limit.plainText⟩) ∨
        ∃ limit, spec.max = some limit ∧ limit.lt x = true ∧
          failure = ⟨.max, "Value must be at most " ++ .ofList limit.plainText⟩))
      ((typedNumber? text).bind (numberFailure? spec)) :=
  FirstOf.bind _ fun x => FirstOf.limits spec.min spec.max x.lt (fun limit => limit.lt x)
    (by decide) _ _

theorem breaksPattern_eq_true_iff {pattern text : String} :
    breaksPattern pattern text = true ↔
      pattern ≠ "" ∧ patternMatches pattern text = .ok false := by
  rw [breaksPattern, Bool.and_eq_true, bne_iff_ne]
  refine and_congr_right fun _ => ?_
  cases patternMatches pattern text with
  | error error => simp
  | ok found => cases found <;> simp

/-- The failure of a pattern. -/
theorem firstOf_patternFailure? (text : String) :
    FirstOf (fun failure => ∃ pattern, spec.pattern = some pattern ∧
        (pattern ≠ "" ∧ patternMatches pattern text = .ok false) ∧
          failure = ⟨.pattern, "Invalid format"⟩)
      (patternFailure? spec text) :=
  FirstOf.bind spec.pattern fun pattern => (FirstOf.failIf _ _ _).congr fun failure => by
    rw [breaksPattern_eq_true_iff]

theorem firstOf_failure?_text (text : String) :
    FirstOf (spec.Breaks (.text text)) (spec.failure? (.text text)) := by
  have hnumber := (spec.firstOf_numberFailure? text).orElse (spec.firstOf_patternFailure? text) (by
    rintro _ _ ⟨_, -, ⟨_, -, -, rfl⟩ | ⟨_, -, -, rfl⟩⟩ ⟨_, -, -, rfl⟩ <;>
      simp only [Rule.rank, Nat.reduceLT])
  refine ((spec.firstOf_lengthFailure? (Text.units text)).orElse hnumber ?_).congr
    fun failure => ⟨?_, fun h => ?_⟩
  · rintro _ _ (⟨_, -, -, rfl⟩ | ⟨_, -, -, rfl⟩)
      (⟨_, -, ⟨_, -, -, rfl⟩ | ⟨_, -, -, rfl⟩⟩ | ⟨_, -, -, rfl⟩) <;>
      simp only [Rule.rank, Nat.reduceLT]
  · rintro ((⟨limit, hrule, hshort, rfl⟩ | ⟨limit, hrule, hlong, rfl⟩) |
      ⟨x, hnumber, ⟨limit, hrule, hlow, rfl⟩ | ⟨limit, hrule, hhigh, rfl⟩⟩ |
      ⟨pattern, hrule, ⟨hne, hnone⟩, rfl⟩)
    · exact .minLength hrule (.text text) hshort
    · exact .maxLength hrule (.text text) hlong
    · exact .min hrule hnumber hlow
    · exact .max hrule hnumber hhigh
    · exact .pattern hrule hne hnone
  · cases h with
    | minLength hrule hlength hshort =>
        cases hlength
        exact .inl (.inl ⟨_, hrule, hshort, rfl⟩)
    | maxLength hrule hlength hlong =>
        cases hlength
        exact .inl (.inr ⟨_, hrule, hlong, rfl⟩)
    | min hrule hnumber hlow => exact .inr (.inl ⟨_, hnumber, .inl ⟨_, hrule, hlow, rfl⟩⟩)
    | max hrule hnumber hhigh => exact .inr (.inl ⟨_, hnumber, .inr ⟨_, hrule, hhigh, rfl⟩⟩)
    | pattern hrule hne hnone => exact .inr (.inr ⟨_, hrule, ⟨hne, hnone⟩, rfl⟩)

theorem firstOf_failure?_multi (values : List String) :
    FirstOf (spec.Breaks (.multi values)) (spec.failure? (.multi values)) := by
  have hfound : spec.failure? (.multi values) = lengthFailure? spec values.length := by
    simp [failure?, AnswerValue.asFile?, AnswerValue.asText?, AnswerValue.length?]
  rw [hfound]
  refine (spec.firstOf_lengthFailure? values.length).congr fun failure => ⟨?_, fun h => ?_⟩
  · rintro (⟨limit, hrule, hshort, rfl⟩ | ⟨limit, hrule, hlong, rfl⟩)
    · exact .minLength hrule (.multi values) hshort
    · exact .maxLength hrule (.multi values) hlong
  · cases h with
    | minLength hrule hlength hshort =>
        cases hlength
        exact .inl ⟨_, hrule, hshort, rfl⟩
    | maxLength hrule hlength hlong =>
        cases hlength
        exact .inr ⟨_, hrule, hlong, rfl⟩

/-- No rule of a spec is about the choices of several persons. -/
theorem not_breaks_perPerson (choices : Table String String) (failure : RuleFailure) :
    ¬ spec.Breaks (.perPerson choices) failure := by
  intro h
  cases h with
  | minLength _ hlength => cases hlength
  | maxLength _ hlength => cases hlength

/-- The search through a spec finds the first of its broken rules. -/
theorem firstOf_failure? (answer : AnswerValue) :
    FirstOf (spec.Breaks answer) (spec.failure? answer) := by
  cases answer with
  | text text => exact spec.firstOf_failure?_text text
  | multi values => exact spec.firstOf_failure?_multi values
  | file file =>
      have hfound : spec.failure? (.file file) = fileFailure? spec file := by
        simp [failure?, AnswerValue.asFile?, AnswerValue.asText?, AnswerValue.length?]
      rw [hfound]
      exact spec.firstOf_fileFailure? file
  | perPerson choices => exact .of_none (spec.not_breaks_perPerson choices)

variable {spec} {answer : AnswerValue} {failure : RuleFailure}

theorem Breaks.rank_pos (h : spec.Breaks answer failure) : 0 < failure.rule.rank := by
  cases h <;> exact Nat.succ_pos _

/-- The spec without one of its rules. -/
def without (spec : ValidationSpec) (rule : Rule) : ValidationSpec where
  minLength := if rule = .minLength then none else spec.minLength
  maxLength := if rule = .maxLength then none else spec.maxLength
  min := if rule = .min then none else spec.min
  max := if rule = .max then none else spec.max
  pattern := if rule = .pattern then none else spec.pattern
  errorMessage := spec.errorMessage
  accept := if rule = .accept then none else spec.accept
  maxSize := if rule = .maxSize then none else spec.maxSize

/-- A rule that is dropped takes nothing but its own failure with it. -/
theorem breaks_without_iff {rule : Rule} :
    (spec.without rule).Breaks answer failure ↔
      rule ≠ failure.rule ∧ spec.Breaks answer failure := by
  constructor
  · intro h
    cases h with
    | accept hrule hfile =>
        obtain ⟨hne, hrule⟩ := Option.ite_none_left_eq_some.1 hrule
        exact ⟨hne, .accept hrule hfile⟩
    | maxSize hrule hsize =>
        obtain ⟨hne, hrule⟩ := Option.ite_none_left_eq_some.1 hrule
        exact ⟨hne, .maxSize hrule hsize⟩
    | minLength hrule hlength hshort =>
        obtain ⟨hne, hrule⟩ := Option.ite_none_left_eq_some.1 hrule
        exact ⟨hne, .minLength hrule hlength hshort⟩
    | maxLength hrule hlength hlong =>
        obtain ⟨hne, hrule⟩ := Option.ite_none_left_eq_some.1 hrule
        exact ⟨hne, .maxLength hrule hlength hlong⟩
    | min hrule hnumber hlow =>
        obtain ⟨hne, hrule⟩ := Option.ite_none_left_eq_some.1 hrule
        exact ⟨hne, .min hrule hnumber hlow⟩
    | max hrule hnumber hhigh =>
        obtain ⟨hne, hrule⟩ := Option.ite_none_left_eq_some.1 hrule
        exact ⟨hne, .max hrule hnumber hhigh⟩
    | pattern hrule hpattern hnone =>
        obtain ⟨hne, hrule⟩ := Option.ite_none_left_eq_some.1 hrule
        exact ⟨hne, .pattern hrule hpattern hnone⟩
  · rintro ⟨hne, h⟩
    cases h with
    | accept hrule hfile => exact .accept ((if_neg hne).trans hrule) hfile
    | maxSize hrule hsize => exact .maxSize ((if_neg hne).trans hrule) hsize
    | minLength hrule hlength hshort => exact .minLength ((if_neg hne).trans hrule) hlength hshort
    | maxLength hrule hlength hlong => exact .maxLength ((if_neg hne).trans hrule) hlength hlong
    | min hrule hnumber hlow => exact .min ((if_neg hne).trans hrule) hnumber hlow
    | max hrule hnumber hhigh => exact .max ((if_neg hne).trans hrule) hnumber hhigh
    | pattern hrule hpattern hnone => exact .pattern ((if_neg hne).trans hrule) hpattern hnone

end ValidationSpec

/-! ### The rules of a question -/

namespace Question

variable {question : Question} {answer : Option AnswerValue} {failure : RuleFailure}

/-- The rule that there be an answer is tried first, and the rules of the spec only on an answer
that says something. -/
theorem failure?_eq (question : Question) (answer : Option AnswerValue) :
    question.failure? answer =
      (failIf (question.required && question.isMissing answer) .required "This field is required"
        <|> answer.bind fun value => question.validation.bind fun spec =>
          if value.isTruthy then spec.failure? value else none) := by
  unfold failure? failIf
  split
  · rfl
  · cases answer with
    | none => rfl
    | some value =>
        cases question.validation with
        | none => rfl
        | some spec => rfl

theorem breaks_iff : question.Breaks answer failure ↔
    ((question.required && question.isMissing answer) = true ∧
        failure = ⟨.required, "This field is required"⟩) ∨
      ∃ value, answer = some value ∧ ∃ spec, question.validation = some spec ∧
        value.isTruthy = true ∧ spec.Breaks value failure := by
  rw [Bool.and_eq_true]
  constructor
  · intro h
    cases h with
    | required hrequired hmissing => exact .inl ⟨⟨hrequired, hmissing⟩, rfl⟩
    | rule hspec htruthy h => exact .inr ⟨_, rfl, _, hspec, htruthy, h⟩
  · rintro (⟨⟨hrequired, hmissing⟩, rfl⟩ | ⟨value, rfl, spec, hspec, htruthy, h⟩)
    · exact .required hrequired hmissing
    · exact .rule hspec htruthy h

/-- The search through the rules finds the first of those that are broken. -/
theorem firstOf_failure? (question : Question) (answer : Option AnswerValue) :
    FirstOf (question.Breaks answer) (question.failure? answer) := by
  have hspec := FirstOf.bind answer fun value => FirstOf.bind question.validation fun spec =>
    (spec.firstOf_failure? value).ite value.isTruthy
  rw [failure?_eq]
  refine ((FirstOf.failIf _ _ _).orElse hspec ?_).congr fun failure => breaks_iff.symm
  rintro _ _ ⟨-, rfl⟩ ⟨_, -, _, -, -, h⟩
  exact h.rank_pos

theorem withMessage_eq (question : Question) (failure : RuleFailure) :
    question.withMessage failure =
      ⟨failure.rule, (question.validation.bind (·.errorMessage)).getD failure.message⟩ := by
  rw [withMessage]
  cases question.validation.bind (·.errorMessage) with
  | none => rfl
  | some message => rfl

theorem isAnswerable_iff {kind : AnswerType} : kind.isAnswerable = true ↔ kind ≠ .displayText := by
  cases kind <;> decide

/-- Nothing is wrong with an answer if it breaks no rule, or if the question takes none. -/
theorem checkAnswer_eq_none_iff : question.checkAnswer answer = none ↔
    question.answerType = .displayText ∨ ∀ broken, ¬ question.Breaks answer broken := by
  rw [checkAnswer]
  by_cases hkind : question.answerType = .displayText
  · simp [hkind, AnswerType.isAnswerable]
  · rw [if_pos (isAnswerable_iff.2 hkind), Option.map_eq_none_iff,
      (question.firstOf_failure? answer).none_iff]
    exact ⟨.inr, fun h => h.resolve_left hkind⟩

/-- The question without one of its rules. -/
def without (question : Question) (rule : Rule) : Question :=
  { question with
    required := question.required && rule != .required
    validation := question.validation.map (·.without rule) }

/-- A rule that is dropped takes nothing but its own failure with it. -/
theorem breaks_without_iff {rule : Rule} : (question.without rule).Breaks answer failure ↔
    rule ≠ failure.rule ∧ question.Breaks answer failure := by
  constructor
  · intro h
    cases h with
    | required hrequired hmissing =>
        obtain ⟨hrequired, hne⟩ := Bool.and_eq_true_iff.1 hrequired
        exact ⟨bne_iff_ne.1 hne, .required hrequired hmissing⟩
    | rule hspec htruthy h =>
        obtain ⟨spec, hgiven, rfl⟩ := Option.map_eq_some_iff.1 hspec
        obtain ⟨hne, h⟩ := ValidationSpec.breaks_without_iff.1 h
        exact ⟨hne, .rule hgiven htruthy h⟩
  · rintro ⟨hne, h⟩
    cases h with
    | required hrequired hmissing =>
        exact .required (Bool.and_eq_true_iff.2 ⟨hrequired, bne_iff_ne.2 hne⟩) hmissing
    | rule hspec htruthy h =>
        exact .rule (Option.map_eq_some_iff.2 ⟨_, hspec, rfl⟩) htruthy
          (ValidationSpec.breaks_without_iff.2 ⟨hne, h⟩)

/-- **The first broken rule is reported**, each rule being judged on its own, with the message of
the question or else with that of the rule. Nothing is reported of a question that takes no answer,
no rule that is dropped makes a valid answer invalid, and a question that is not required leaves it
open to say nothing. -/
theorem checkAnswer_first (question : Question) (answer : Option AnswerValue) :
    (question.answerType = .displayText → question.checkAnswer answer = none) ∧
    (question.answerType ≠ .displayText →
      (∀ failure, question.checkAnswer answer = some failure ↔
        ∃ broken, question.Breaks answer broken ∧
          (∀ other, question.Breaks answer other → broken.rule.rank ≤ other.rule.rank) ∧
          failure = ⟨broken.rule,
            (question.validation.bind (·.errorMessage)).getD broken.message⟩) ∧
      (question.checkAnswer answer = none ↔ ∀ broken, ¬ question.Breaks answer broken)) ∧
    (∀ rule, question.checkAnswer answer = none →
      (question.without rule).checkAnswer answer = none) ∧
    (question.required = false →
      answer ∈ [none, some (.text ""), some (.multi []), some (.perPerson .empty)] →
        question.checkAnswer answer = none) := by
  refine ⟨fun hkind => checkAnswer_eq_none_iff.2 (.inl hkind), fun hkind => ⟨fun failure => ?_, ?_⟩,
    fun rule h => ?_, fun hrequired hempty => ?_⟩
  · rw [checkAnswer, if_pos (isAnswerable_iff.2 hkind), Option.map_eq_some_iff]
    simp only [(question.firstOf_failure? answer).some_iff, withMessage_eq, and_assoc, eq_comm]
  · exact checkAnswer_eq_none_iff.trans ⟨fun h => h.resolve_left hkind, .inr⟩
  · rw [checkAnswer_eq_none_iff] at h ⊢
    refine h.imp_right fun hnone broken hbroken => ?_
    exact hnone broken (breaks_without_iff.1 hbroken).2
  · refine checkAnswer_eq_none_iff.2 (.inr fun broken hbroken => ?_)
    cases hbroken with
    | required hno => simp [hrequired] at hno
    | rule _ htruthy =>
        -- none of these answers says anything
        simp only [List.mem_cons, reduceCtorEq, Option.some.injEq, List.not_mem_nil, or_false,
          false_or] at hempty
        rcases hempty with rfl | rfl | rfl <;> cases htruthy

/-- A number of at least three digits that has to be given. -/
def chipNumber : Question :=
  { blank with
    required := true
    validation := some { ValidationSpec.empty with
      minLength := some 3, min := some (.ofNat 100), pattern := some "^[0-9]+$"
      errorMessage := some "Not a chip number" } }

/-- Of an answer that is too short the length is reported, whatever else is wrong with it, and
nothing has to be answered once the rule for it has been dropped. -/
theorem checkAnswer_first_chipNumber :
    chipNumber.answerType ≠ .displayText ∧
      chipNumber.checkAnswer (some (.text "x")) = some ⟨.minLength, "Not a chip number"⟩ ∧
      (chipNumber.without .required).required = false ∧
      (chipNumber.without .required).checkAnswer (some (.text "")) = none := by
  have hkind : chipNumber.answerType ≠ .displayText := by decide
  refine ⟨hkind, ?_, by decide,
    (checkAnswer_first _ _).2.2.2 (by decide) (List.mem_cons_of_mem _ List.mem_cons_self)⟩
  refine (((checkAnswer_first chipNumber _).2.1 hkind).1 _).2 ⟨⟨.minLength, _⟩,
    .rule rfl (by decide) (.minLength rfl (.text "x") (by decide)), fun other hother => ?_, rfl⟩
  cases hother with
  | required _ hmissing => cases hmissing
  | rule _ _ h => cases h <;> simp only [Rule.rank, Nat.reduceLeDiff, Nat.le_refl]

end Question

end Questionnaire
