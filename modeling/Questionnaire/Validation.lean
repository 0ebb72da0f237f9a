import Questionnaire.Number.Binary64
import Questionnaire.Pattern.Basic
import Questionnaire.Visibility

/-! # Validating a form

`Question.checkAnswer` tries the rules of a question in the order of `Rule` and reports the first
one that an answer breaks. An answer that is absent or empty breaks at most the rule that there be
one. A pattern that cannot be used breaks nothing.

`Document.validate` checks the answer of every field that is shown, and of its sub-questions, and
lists what is wrong in document order. -/

namespace Questionnaire

/-- A rule that an answer may break. -/
inductive Rule where
  | required
  | accept
  | maxSize
  | minLength
  | maxLength
  | min
  | max
  | pattern
  deriving DecidableEq, Repr

/-- The name of a rule. -/
def Rule.name : Rule → String
  | .required => "required"
  | .accept => "accept"
  | .maxSize => "max_size"
  | .minLength => "min_length"
  | .maxLength => "max_length"
  | .min => "min"
  | .max => "max"
  | .pattern => "pattern"

/-- A broken rule and what is reported about it. -/
structure RuleFailure where
  rule : Rule
  message : String
  deriving DecidableEq, Repr

/-- A broken rule, if the condition for it holds. -/
def failIf (broken : Bool) (rule : Rule) (message : String) : Option RuleFailure :=
  if broken then some ⟨rule, message⟩ else none

/-! ### Missing answers -/

/-- Whether a person has not chosen anything. -/
def missingChoice (choices : Table String String) (person : String) : Bool :=
  match choices.get? person with
  | none => true
  | some choice => Text.blank choice

/-- Whether a required question remains unanswered. A question for several persons needs the choice
of each. -/
def Question.isMissing (question : Question) : Option AnswerValue → Bool
  | none => true
  | some (.text value) => Text.blank value
  | some (.multi values) => values.isEmpty
  | some (.file _) => false
  | some (.perPerson choices) =>
    if question.answerType = .radioMultiPerson && !question.appliesTo.isEmpty then
      question.appliesTo.any (missingChoice choices)
    else choices.isEmpty

/-! ### Files -/

/-- The entries of a list of accepted file types. -/
def acceptEntries (accept : String) : List (List Char) :=
  ((Text.splitAt (· == ',') accept.toList).map (Text.lowercase ∘ Text.trim)).filter (!·.isEmpty)

/-- The family of media types that an entry such as `image/*` accepts. -/
def acceptedFamily? (entry : List Char) : Option (List Char) :=
  if ['/', '*'].isSuffixOf entry then some (entry.take (entry.length - 2)) else none

/-- Whether an entry accepts a file of the given name and media type, both in lower case. -/
def entryAccepts (name mediaType entry : List Char) : Bool :=
  match entry with
  | '.' :: _ => entry.isSuffixOf name
  | _ =>
    match acceptedFamily? entry with
    | some family => mediaType.takeWhile (· != '/') == family && !mediaType.isEmpty
    | none => mediaType == entry

/-- Whether a file is of one of the accepted types; an empty list accepts every file. -/
def FileDescriptor.isAccepted (file : FileDescriptor) (accept : String) : Bool :=
  let entries := acceptEntries accept
  let name := Text.lowercase file.name.toList
  let mediaType := Text.lowercase (file.mediaType.getD "").toList
  entries.isEmpty || entries.any (entryAccepts name mediaType)

/-- Whether a size in bytes is more than a number of megabytes. -/
def exceedsMegabytes (size : Nat) (limit : Binary64) : Bool := limit.shiftedBelow 20 (.ofNat size)

/-- The broken rule about files. -/
def fileFailure? (spec : ValidationSpec) (file : FileDescriptor) : Option RuleFailure :=
  (spec.accept.bind fun accept =>
    failIf (!file.isAccepted accept) .accept ("File type must be one of: " ++ accept))
  <|> spec.maxSize.bind fun limit =>
    failIf (exceedsMegabytes file.size limit) .maxSize
      ("File must be smaller than " ++ .ofList limit.plainText ++ " MB")

/-! ### Lengths, numbers and patterns -/

/-- How many 16-bit units a character takes: one if it is of the basic multilingual plane. -/
def Text.charUnits (c : Char) : Nat := if c.toNat < 0x10000 then 1 else 2

/-- How many 16-bit units a text takes; a browser counts a text in them. -/
def Text.units (text : String) : Nat := (text.toList.map charUnits).foldl (· + ·) 0

/-- The length of an answer: the units of a text, the number of values. -/
def AnswerValue.length? : AnswerValue → Option Nat
  | .text value => some (Text.units value)
  | .multi values => some values.length
  | _ => none

/-- The broken rule about lengths. -/
def lengthFailure? (spec : ValidationSpec) (length : Nat) : Option RuleFailure :=
  (spec.minLength.bind fun limit =>
    failIf (length < limit) .minLength s!"Minimum length is {limit}")
  <|> spec.maxLength.bind fun limit =>
    failIf (limit < length) .maxLength s!"Maximum length is {limit}"

/-- The number that a typed answer spells, blanks around it aside. -/
def typedNumber? (text : String) : Option Binary64 := readNumber? (Text.trim text.toList)

/-- The broken rule about numbers. -/
def numberFailure? (spec : ValidationSpec) (x : Binary64) : Option RuleFailure :=
  (spec.min.bind fun limit =>
    failIf (x.lt limit) .min ("Value must be at least " ++ .ofList limit.plainText))
  <|> spec.max.bind fun limit =>
    failIf (limit.lt x) .max ("Value must be at most " ++ .ofList limit.plainText)

/-- Whether a text breaks a pattern; an empty pattern and one that cannot be used demand nothing. -/
def breaksPattern (pattern text : String) : Bool :=
  pattern != "" && (match patternMatches pattern text with
    | .ok found => !found
    | .error _ => false)

/-- The broken rule about patterns. -/
def patternFailure? (spec : ValidationSpec) (text : String) : Option RuleFailure :=
  spec.pattern.bind fun pattern => failIf (breaksPattern pattern text) .pattern "Invalid format"

/-! ### All rules -/

/-- The first rule that an answer breaks. -/
def ValidationSpec.failure? (spec : ValidationSpec) (answer : AnswerValue) : Option RuleFailure :=
  answer.asFile?.bind (fileFailure? spec)
  <|> answer.length?.bind (lengthFailure? spec)
  <|> (answer.asText?.bind typedNumber?).bind (numberFailure? spec)
  <|> answer.asText?.bind (patternFailure? spec)

namespace Question

/-- The failure with the question's own message, if it has one. -/
def withMessage (question : Question) (failure : RuleFailure) : RuleFailure :=
  match question.validation.bind (·.errorMessage) with
  | some message => { failure with message }
  | none => failure

/-- The first rule of the question that an answer or its absence breaks, with its own message. -/
def failure? (question : Question) (answer : Option AnswerValue) : Option RuleFailure :=
  if question.required && question.isMissing answer then
    some ⟨.required, "This field is required"⟩
  else
    match answer, question.validation with
    | some answer, some spec => if answer.isTruthy then spec.failure? answer else none
    | _, _ => none

/-- The first rule of the question that an answer or its absence breaks. A question that takes no
answer has no rules. -/
def checkAnswer (question : Question) (answer : Option AnswerValue) : Option RuleFailure :=
  if question.answerType.isAnswerable then (question.failure? answer).map question.withMessage
  else none

/-- What is reported about an answer or its absence. -/
def validateAnswer (question : Question) (answer : Option AnswerValue) : Option String :=
  (question.checkAnswer answer).map (·.message)

end Question

/-! ### Reports -/

/-- What is wrong with the answers of a form, by key and in document order. -/
abbrev ValidationReport := List (String × String)

namespace ValidationReport

/-- Whether nothing is wrong. -/
def isValid (report : ValidationReport) : Bool := report.isEmpty

end ValidationReport

/-- What is wrong with the answer at a key. -/
def entryFor (answers : AnswerStore) (key : String) (question : Question) :
    Option (String × String) :=
  (question.validateAnswer (answers.get? key)).map (key, ·)

/-- What is wrong with the answers of a field and of its sub-questions. -/
def entriesFor (answers : AnswerStore) (key : FieldKey) (question : Question) :
    List (String × String) :=
  (entryFor answers key.text question).toList
    ++ question.subQuestions.zipIdx.filterMap fun (sub, n) => entryFor answers (key.sub n) sub

/-- What is wrong with the answers of the form. -/
def Document.validate (document : Document) (state : FormState) : ValidationReport :=
  (document.visibleFields state).flatMap fun (key, question) =>
    entriesFor state.answers key question

end Questionnaire
