import Questionnaire.Proofs.Json.Decoding
import Questionnaire.Proofs.Json.Reading
import Questionnaire.Question.Codec

/-! # Questions in JSON and back

A question that is complete (`Question.Complete`) is read back from its JSON
(`Question.reads_toJson`) if the lengths in its rules have 64 bits and no input type of its options
is blank, and the same holds of its sub-questions (`Question.Writable`). Every question that has
been decoded is of this kind (`Question.yields_decode`). -/

namespace Questionnaire

open Decoder

/-! ### Options -/

/-- The input type of an option is not blank. A value and a label it has by its type. -/
def ChoiceOption.Clean (option : ChoiceOption) : Prop :=
  ∀ kind, option.inputType = some kind → Text.blank kind = false

namespace ChoiceOption

theorem filter_inputType {option : ChoiceOption} (h : option.Clean) :
    option.inputType.filter (!Text.blank ·) = option.inputType := by
  cases hkind : option.inputType with
  | none => rfl
  | some kind =>
      rw [Option.filter_some, h kind hkind]
      rfl

theorem clean_of_ofParts? {parts : Parts} {option : ChoiceOption}
    (h : ofParts? parts = some option) : option.Clean := by
  intro kind hkind
  have hfilter : option.inputType = parts.inputType.filter (!Text.blank ·) := by
    unfold ofParts? at h
    split at h <;> first | cases h; rfl | cases h
  rw [hfilter, Option.filter_eq_some_iff] at hkind
  simpa using hkind.2

theorem yields_decode : Yields decode Clean := by
  intro origin node option h
  obtain ⟨parts, -, h⟩ := bind_eq_ok_iff.1 h
  split at h
  · rename_i found hfound
    obtain rfl := pure_eq_ok_iff.1 h
    exact clean_of_ofParts? hfound
  · cases h

theorem reads_toJson {option : ChoiceOption} (h : option.Clean) :
    Reads decode option.toJson option := by
  have hfills : Fills fields [some (.string option.value), some (.string option.label),
      some (.bool option.requiresInput), option.inputType.map .string]
      ⟨none, none, false, none⟩
      ⟨some option.value, some option.label, option.requiresInput, option.inputType⟩ :=
    .given ((reads_string _).optional (by simp)) <| .given ((reads_string _).optional (by simp)) <|
      .given (reads_bool _) <|
        .optional (fun kind _ => ⟨reads_string kind, by simp⟩) rfl (.nil _)
  have hrecord : Reads (record "RawOption" fields ⟨none, none, false, none⟩) option.toJson _ :=
    hfills.reads_record (by decide) (by simp [fields, field]) "RawOption"
  have hparts : Reads (anyOf "RawOption" shapes) option.toJson _ :=
    .anyOf_cons (.anyOf hrecord.asObject _ _) rfl
  intro origin
  rw [decode, hparts origin]
  simp only [bind, Except.bind, ofParts?, filter_inputType h]
  rfl

end ChoiceOption

/-! ### Kinds of answers, revealing values and rules -/

theorem AnswerType.lookup_name (kind : AnswerType) : names.lookup kind.name = some kind := by
  cases kind <;> rfl

theorem AnswerType.reads_name (kind : AnswerType) :
    Reads AnswerType.decode (.string kind.name) kind :=
  reads_variant kind.lookup_name

theorem ShowWhen.reads_toJson (value : ShowWhen) : Reads ShowWhen.decode value.toJson value := by
  cases value with
  | one value => exact .anyOf ((reads_string value).map ShowWhen.one) _ _
  | any values =>
      have hlist : Reads (list Decoder.string) (.strings values) values :=
        reads_list fun value _ => reads_string value
      exact .anyOf_cons (.anyOf (hlist.map ShowWhen.any) _ _) rfl

/-- The lengths of the rules have 64 bits. -/
structure ValidationSpec.Sized (spec : ValidationSpec) : Prop where
  minLength : ∀ n, spec.minLength = some n → n < wordLimit
  maxLength : ∀ n, spec.maxLength = some n → n < wordLimit

namespace ValidationSpec

theorem yields_decode : Yields decode Sized := by
  refine yields_record ⟨nofun, nofun⟩ ?_
  have hother {α : Type} {name : String} {decode : Decoder α}
      {set : α → ValidationSpec → ValidationSpec}
      (hmin : ∀ x spec, (set x spec).minLength = spec.minLength)
      (hmax : ∀ x spec, (set x spec).maxLength = spec.maxLength) :
      Keeps Sized (field name decode set) :=
    keeps_field (yields_true decode) fun x spec _ h =>
      ⟨fun n hn => h.minLength n (hmin x spec ▸ hn), fun n hn => h.maxLength n (hmax x spec ▸ hn)⟩
  simp only [fields, List.forall_mem_cons]
  refine ⟨?_, ?_, ?_, ?_, ?_, ?_, ?_, ?_, List.forall_mem_nil _⟩
  · exact keeps_field (yields_nat _ _).optional fun x spec hx h => ⟨hx, h.maxLength⟩
  · exact keeps_field (yields_nat _ _).optional fun x spec hx h => ⟨h.minLength, hx⟩
  all_goals exact hother (fun _ _ => rfl) fun _ _ => rfl

theorem reads_toJson {spec : ValidationSpec} (h : spec.Sized) : Reads decode spec.toJson spec := by
  have hsize {n : Nat} (hn : n < wordLimit) : Reads size (.ofNat n) n ∧ Json.ofNat n ≠ .null :=
    ⟨reads_nat hn _, nofun⟩
  have hdouble (x : Binary64) : Reads double (numberJson x) x ∧ numberJson x ≠ .null :=
    ⟨reads_double x, nofun⟩
  have htext (text : String) : Reads string (.string text) text ∧ Json.string text ≠ .null :=
    ⟨reads_string text, nofun⟩
  have hfills : Fills fields [spec.minLength.map .ofNat, spec.maxLength.map .ofNat,
      spec.min.map numberJson, spec.max.map numberJson, spec.pattern.map .string,
      spec.errorMessage.map .string, spec.accept.map .string, spec.maxSize.map numberJson]
      empty spec :=
    .optional (fun n hn => hsize (h.minLength n hn)) rfl <|
      .optional (fun n hn => hsize (h.maxLength n hn)) rfl <|
        .optional (fun x _ => hdouble x) rfl <| .optional (fun x _ => hdouble x) rfl <|
          .optional (fun x _ => htext x) rfl <| .optional (fun x _ => htext x) rfl <|
            .optional (fun x _ => htext x) rfl <| .optional (fun x _ => hdouble x) rfl <| .nil _
  exact hfills.reads_record (by decide) (by simp [fields, field]) "ValidationSpec"

end ValidationSpec

/-! ### Questions -/

/-- The options and rules of a question can be written and read. -/
structure Question.Regular (question : Question) : Prop where
  options : ∀ option ∈ question.options, option.Clean
  validation : ∀ spec, question.validation = some spec → spec.Sized

/-- The options and rules of a question and its sub-questions can be written and read. -/
def Question.Writable (question : Question) : Prop :=
  question.Regular ∧ ∀ sub ∈ question.subQuestions, sub.Regular

namespace Question

theorem yields_decodeWithin (levels : Nat) : Yields (decodeWithin levels) Writable := by
  induction levels with
  | zero => exact fun _ _ _ h => nomatch h
  | succ levels ih =>
      have hblank : blank.Writable :=
        ⟨⟨List.forall_mem_nil _, fun _ h => nomatch h⟩, List.forall_mem_nil _⟩
      rw [decodeWithin]
      refine yields_record hblank ?_
      simp only [fields, List.forall_mem_cons]
      refine ⟨?_, ?_, ?_, ?_, keeps_field ChoiceOption.yields_decode.list ?options,
        keeps_field ValidationSpec.yields_decode.optional ?validation, ?_, ?_,
        keeps_field ih.list ?subQuestions, ?_, List.forall_mem_nil _⟩
      case options => exact fun _ _ hoptions h => ⟨⟨hoptions, h.1.validation⟩, h.2⟩
      case validation => exact fun _ _ hvalidation h => ⟨⟨h.1.options, hvalidation⟩, h.2⟩
      case subQuestions =>
        exact fun _ _ hsubs h => ⟨⟨h.1.options, h.1.validation⟩, fun sub hsub => (hsubs sub hsub).1⟩
      all_goals exact (yields_true _).map fun _ _ _ h => ⟨⟨h.1.options, h.1.validation⟩, h.2⟩

/-- Every question that has been decoded can be written and read. -/
theorem yields_decode : Yields decode Writable :=
  fun origin node question h => yields_decodeWithin (node.depth + 1) origin node question h

theorem toJsons_eq_map (questions : List Question) : toJsons questions = questions.map toJson := by
  induction questions with
  | nil => rfl
  | cons question rest ih => rw [toJsons, ih, List.map_cons]

/-- The JSON of the fields of a question with an identifier. -/
def values (question : Question) : List (Option Json) := [
  some (.string question.id), some (.string question.text),
  some (.string question.answerType.name), some (.bool question.required),
  listJson ChoiceOption.toJson question.options, question.validation.map ValidationSpec.toJson,
  question.parent.map .string, question.showWhen.map ShowWhen.toJson,
  listJson toJson question.subQuestions, listJson .string question.appliesTo]

theorem toJson_eq {question : Question} (hid : question.id.isMissing = false)
    (decodeSub : Decoder Question) :
    question.toJson = .object (entriesOf (fields decodeSub) question.values) := by
  obtain ⟨id, text, answerType, required, options, validation, parent, showWhen, subs,
    appliesTo⟩ := question
  simp only [toJson, jsonWith, toJsons_eq_map, List.isEmpty_map, hid]
  rfl

theorem fills_values {question : Question} (h : question.Regular) {decodeSub : Decoder Question}
    (hsubs : ∀ sub ∈ question.subQuestions, Reads decodeSub sub.toJson sub) :
    Fills (fields decodeSub) question.values blank question := by
  obtain ⟨id, text, answerType, required, options, validation, parent, showWhen, subs,
    appliesTo⟩ := question
  exact .given (reads_string id) <| .present ((reads_string text).map _) <|
    .present (answerType.reads_name.map _) <| .given (reads_bool required) <|
      .list (fun option hoption => ChoiceOption.reads_toJson (h.options option hoption)) rfl <|
        .optional (fun spec hspec =>
          ⟨ValidationSpec.reads_toJson (h.validation spec hspec), nofun⟩) rfl <|
          .optional (fun id _ => ⟨reads_string id, nofun⟩) rfl <|
            .optional (fun value _ => ⟨value.reads_toJson, by cases value <;> nofun⟩) rfl <|
              .list hsubs rfl <| .list (fun person _ => reads_string person) rfl <| .nil _

/-- A question is read back if its sub-questions are. -/
theorem reads_record {question : Question} (h : question.Regular)
    (hid : question.id.isMissing = false) {decodeSub : Decoder Question}
    (hsubs : ∀ sub ∈ question.subQuestions, Reads decodeSub sub.toJson sub) :
    Reads (record "Question" (fields decodeSub) blank) question.toJson question := by
  have hnames : Apart (fields decodeSub) := by simp [Apart, fields, field, Field.answersTo]
  rw [toJson_eq hid decodeSub]
  refine (fills_values h hsubs).reads_record hnames ?_ "Question"
  refine List.forall_mem_cons.2 ⟨fun hid => absurd hid Bool.false_ne_true,
    List.forall_mem_cons.2 ⟨fun _ => name_mem_entriesOf (.tail _ (.head _)), ?_⟩⟩
  simp [field]

/-- A question has an identifier, and so have its sub-questions, which have none of their own. -/
structure Complete (question : Question) : Prop where
  named : question.id.isMissing = false
  subNamed : ∀ sub ∈ question.subQuestions, sub.id.isMissing = false
  flat : ∀ sub ∈ question.subQuestions, sub.subQuestions = []

/-- A complete question is read back. -/
theorem reads_toJson {question : Question} (h : question.Complete)
    (hwritable : question.Writable) : Reads decode question.toJson question := by
  intro origin
  have hdepth : (Node.ofJson question.toJson).depth ≠ 0 := by
    rw [toJson_eq h.named fun _ _ => .error (.fault .tooDeep)]
    exact Nat.succ_ne_zero _
  obtain ⟨levels, hlevels⟩ := Nat.exists_eq_succ_of_ne_zero hdepth
  have hread (sub : Question) (hsub : sub ∈ question.subQuestions) :
      Reads (decodeWithin (levels + 1)) sub.toJson sub :=
    reads_record (hwritable.2 sub hsub) (h.subNamed sub hsub)
      (by rw [h.flat sub hsub]; exact List.forall_mem_nil _)
  rw [decode, hlevels]
  exact reads_record hwritable.1 h.named hread origin

end Question

/-! ### Legibility -/

theorem ChoiceOption.legible_toJson (levels : Nat) (option : ChoiceOption) :
    option.toJson.Legible (levels + 1) := by
  refine Json.legible_record ?_
  simp only [List.forall_mem_cons, Option.some.injEq, forall_eq']
  exact ⟨.string _ _, .string _ _, .bool _ _, Json.legible_of_map fun _ _ => .string _ _,
    List.forall_mem_nil _⟩

theorem ShowWhen.legible_toJson (levels : Nat) (value : ShowWhen) :
    value.toJson.Legible (levels + 1) := by
  cases value with
  | one value => exact .string _ _
  | any values => exact Json.legible_map_array fun value _ => .string _ _

namespace ValidationSpec

/-- The bounds of the rules that need not be lengths. -/
def numbers (spec : ValidationSpec) : List Binary64 :=
  spec.min.toList ++ spec.max.toList ++ spec.maxSize.toList

theorem legible_toJson {spec : ValidationSpec} (h : spec.Sized)
    (hnumbers : ∀ x ∈ spec.numbers, x.ReadsBack) (levels : Nat) :
    spec.toJson.Legible (levels + 1) := by
  have hlength {n : Option Nat} (hn : ∀ k, n = some k → k < wordLimit) :=
    @Json.legible_of_map _ levels Json.ofNat n fun k hk => .number _ (hn k hk)
  have htext {text : Option String} :=
    @Json.legible_of_map _ levels Json.string text fun _ _ => .string _ _
  have hdouble {x : Option Binary64} (hx : ∀ y ∈ x.toList, y ∈ spec.numbers) :=
    @Json.legible_of_map _ levels numberJson x fun y hy =>
      .number _ (hnumbers y (hx y (Option.mem_toList.2 hy)))
  refine Json.legible_record ?_
  simp only [List.forall_mem_cons]
  exact ⟨hlength h.minLength, hlength h.maxLength, hdouble (by simp +contextual [numbers]),
    hdouble (by simp +contextual [numbers]), htext, htext, htext,
    hdouble (by simp +contextual [numbers]), List.forall_mem_nil _⟩

end ValidationSpec

namespace Question

/-- The numbers in the rules of a question and of its sub-questions. -/
def numbers (question : Question) : List Binary64 :=
  (question :: question.subQuestions).flatMap fun part =>
    part.validation.toList.flatMap ValidationSpec.numbers

theorem legible_listJson {α : Type} {levels : Nat} {toJson : α → Json} {values : List α}
    (h : ∀ a ∈ values, (toJson a).Legible levels) (json : Json)
    (hjson : listJson toJson values = some json) : json.Legible (levels + 1) := by
  unfold listJson at hjson
  split at hjson
  · cases hjson
  · obtain rfl := Option.some.inj hjson
    exact Json.legible_map_array h

/-- A question is legible if its sub-questions are. -/
theorem legible_of_subs {question : Question} (h : question.Regular) (levels : Nat)
    (hnumbers : ∀ spec, question.validation = some spec → ∀ x ∈ spec.numbers, x.ReadsBack)
    (hsubs : ∀ sub ∈ question.subQuestions, sub.toJson.Legible (levels + 1)) :
    question.toJson.Legible (levels + 3) := by
  obtain ⟨id, text, answerType, required, options, validation, parent, showWhen, subs,
    appliesTo⟩ := question
  rw [toJson, jsonWith]
  refine Json.legible_record ?_
  simp only [List.forall_mem_cons, Option.some.injEq, forall_eq']
  refine ⟨?_, .string _ _, .string _ _, .bool _ _, ?_, ?_, ?_, ?_, ?_, ?_, List.forall_mem_nil _⟩
  · intro json hjson
    split at hjson
    · cases hjson
    · obtain rfl := Option.some.inj hjson
      exact .string _ _
  · exact legible_listJson fun option _ => option.legible_toJson levels
  · exact Json.legible_of_map fun spec hspec =>
      spec.legible_toJson (h.validation spec hspec) (hnumbers spec hspec) _
  · exact Json.legible_of_map fun _ _ => .string _ _
  · exact Json.legible_of_map fun value _ => value.legible_toJson _
  · rw [toJsons_eq_map, List.isEmpty_map]
    exact legible_listJson hsubs
  · exact legible_listJson fun _ _ => .string _ _

theorem legible_toJson {question : Question} (h : question.Complete)
    (hwritable : question.Writable) (hnumbers : ∀ x ∈ question.numbers, x.ReadsBack)
    (levels : Nat) : question.toJson.Legible (levels + 5) := by
  have hpart (part : Question) (hpart : part ∈ question :: question.subQuestions)
      (spec : ValidationSpec) (hspec : part.validation = some spec) (x : Binary64)
      (hx : x ∈ spec.numbers) : x.ReadsBack :=
    hnumbers x (List.mem_flatMap.2 ⟨part, hpart, List.mem_flatMap.2
      ⟨spec, Option.mem_toList.2 hspec, hx⟩⟩)
  refine legible_of_subs hwritable.1 (levels + 2) (hpart question List.mem_cons_self) ?_
  intro sub hsub
  refine legible_of_subs (hwritable.2 sub hsub) levels (hpart sub (List.mem_cons_of_mem _ hsub)) ?_
  rw [h.flat sub hsub]
  exact List.forall_mem_nil _

end Question

end Questionnaire
