import Questionnaire.Proofs.Answer.Codec
import Questionnaire.Proofs.Disclosure
import Questionnaire.Proofs.Json.Compact
import Questionnaire.Proofs.Shell.Key
import Questionnaire.Proofs.Shell.Line

/-! # Typing answers

A person types a list, a file or choices by person as compact JSON, and any other answer as it
stands (`AnswerValue.TypedAs`). What is typed is on one line and has no blank at its ends
(`AnswerValue.TypedAs.trimmed`, `AnswerValue.TypedAs.unbroken`), and is read as the answer
(`AnswerValue.TypedAs.readValue`); so the line that answers a question stores just that answer under
the question's key (`Session.answered_typed`). -/

namespace Questionnaire

/-! ### What is typed -/

/-- What may be JSON is told by its first character. -/
theorem Shell.looksLikeJson_iff {text : String} : Shell.looksLikeJson text = true ↔
    text.toList.head? = some '[' ∨ text.toList.head? = some '{' := by
  have hstart (c : Char) (chars : List Char) : [c] <+: chars ↔ chars.head? = some c := by
    cases chars with
    | nil => simp
    | cons d chars => simp [List.cons_prefix_cons, eq_comm]
  rw [Shell.looksLikeJson, Bool.or_eq_true, String.startsWith_string_iff,
    String.startsWith_string_iff]
  exact or_congr (hstart '[' _) (hstart '{' _)

/-- What is typed for an answer. -/
inductive AnswerValue.TypedAs : AnswerValue → String → Prop
  /-- A list, a file or choices by person are typed as JSON. -/
  | json {value : AnswerValue} (shape : value.asText? = none) (sized : value.Sized) :
      TypedAs value value.toJson.compact
  /-- A text is typed as it stands if it has no blanks at its ends and is not taken for JSON. -/
  | text {text : String} (trimmed : Text.Trimmed text.toList) (unbroken : '\n' ∉ text.toList)
      (plain : ∀ c ∈ text.toList.head?, c ≠ '[' ∧ c ≠ '{') : TypedAs (.text text) text

namespace AnswerValue

/-- Everything but a text is written between brackets or braces. -/
theorem exists_compactChars_toJson {value : AnswerValue} (h : value.asText? = none) :
    ∃ inner, Json.compactChars value.toJson = '[' :: (inner ++ [']']) ∨
      Json.compactChars value.toJson = '{' :: (inner ++ ['}']) := by
  cases value with
  | text value => cases h
  | multi values =>
      obtain ⟨inner, hinner⟩ := Json.exists_compactChars_array (values.map .string)
      exact ⟨inner, .inl hinner⟩
  | file descriptor =>
      obtain ⟨inner, hinner⟩ := Json.exists_compactChars_object _
      exact ⟨inner, .inr hinner⟩
  | perPerson choices =>
      obtain ⟨inner, hinner⟩ := Json.exists_compactChars_object _
      exact ⟨inner, .inr hinner⟩

namespace TypedAs

variable {value : AnswerValue} {typed : String}

theorem trimmed (h : value.TypedAs typed) : Text.Trimmed typed.toList := by
  cases h with
  | text htrimmed => exact htrimmed
  | json hshape =>
      have hends {first last : Char} (hfirst : Text.isBlank first = false)
          (hlast : Text.isBlank last = false) (inner : List Char) :
          Text.Trimmed (first :: (inner ++ [last])) :=
        @Text.Trimmed.append [first] [last]
          ⟨List.cons_ne_nil _ _, by simpa using hfirst, by simpa using hfirst⟩
          ⟨List.cons_ne_nil _ _, by simpa using hlast, by simpa using hlast⟩ inner
      rw [Json.compact, String.toList_ofList]
      obtain ⟨inner, hinner | hinner⟩ := exists_compactChars_toJson hshape
      · rw [hinner]
        exact hends (by decide) (by decide) inner
      · rw [hinner]
        exact hends (by decide) (by decide) inner

theorem unbroken (h : value.TypedAs typed) : '\n' ∉ typed.toList := by
  cases h with
  | text _ hunbroken => exact hunbroken
  | json =>
      rw [Json.compact, String.toList_ofList]
      exact fun hmem => absurd (Json.plain_compactChars _ _ hmem) (by decide)

/-- What is typed is read as the answer. -/
theorem readValue (h : value.TypedAs typed) : Shell.readValue typed = value := by
  cases h with
  | text _ _ hplain =>
      have hno : ¬ Shell.looksLikeJson typed = true := by
        rw [Shell.looksLikeJson_iff]
        rintro (hhead | hhead)
        · exact (hplain _ hhead).1 rfl
        · exact (hplain _ hhead).2 rfl
      rw [Shell.readValue, if_neg hno]
  | json hshape hsized =>
      have hyes : Shell.looksLikeJson value.toJson.compact = true := by
        rw [Shell.looksLikeJson_iff, Json.compact, String.toList_ofList]
        obtain ⟨inner, hinner | hinner⟩ := exists_compactChars_toJson hshape
        · exact .inl (by rw [hinner]; rfl)
        · exact .inr (by rw [hinner]; rfl)
      have hread := (AnswerValue.reads_toJson hsized).ofText (legible_toJson hsized 0) (by decide)
      rw [Shell.readValue, if_pos hyes, hread]

end TypedAs

end AnswerValue

/-! ### What is stored -/

/-- The line that answers a question under a key that the shell takes. -/
theorem Shell.step_set (session : Session) (now : String) {key : String}
    (hkey : Shell.checkKey key = .ok ()) (hsolid : Text.Solid key.toList) (hne : key.toList ≠ [])
    {value : List Char} (htrimmed : Text.Trimmed value) (hunbroken : '\n' ∉ value)
    (spacing : Spacing) :
    Shell.Step now session (spacing.line key.toList value) ["ok"]
      (session.setAnswer key (Shell.readValue (.ofList value))) :=
  spacing.step hsolid hne htrimmed hunbroken (by rw [String.ofList_toList, Command.run, hkey])

/-- **Answers are stored as they are typed.** The line that answers a question, a sub-question or
the free text beside a choice stores what was typed under the key, whatever blanks stand around and
between the words, and leaves the other answers, the instances and the document alone. -/
theorem Session.answered_typed (session : Session) (now : String) {key : FieldKey}
    (hfits : key.Fits) {extension : KeyExtension} (hsingle : extension.Single) {value : AnswerValue}
    {typed : String} (htyped : value.TypedAs typed) :
    ∃ next : Session,
      (∀ spacing : Spacing, Shell.Step now session
        (spacing.line (key.extended extension).toList typed.toList) ["ok"] next) ∧
      next.answer? (key.extended extension) = some value ∧
      (∀ other, other ≠ key.extended extension → next.answer? other = session.answer? other) ∧
      next.state.instances = session.state.instances ∧ next.document = session.document ∧
      next.policy = session.policy := by
  have hkey : Shell.checkKey (key.extended extension) = .ok () :=
    Shell.checkKey_eq_ok_iff_extended.2 (.inl ⟨key, extension, hfits, hsingle, rfl⟩)
  refine ⟨session.setAnswer (key.extended extension) value, fun spacing => ?_, ?_, ?_, rfl, rfl,
    rfl⟩
  · have hstep := Shell.step_set session now hkey (key.solid_extended extension)
      (key.extended_ne_nil extension) htyped.trimmed htyped.unbroken spacing
    rwa [String.ofList_toList, htyped.readValue] at hstep
  · exact (Table.get?_insert ..).trans (if_pos rfl)
  · exact fun other hother => (Table.get?_insert ..).trans (if_neg hother)

/-- The names of two pets, by owner. The owners are called like the parts of a file. -/
def petNames : AnswerValue := .perPerson (.ofList [("name", "Rex, [Tom]"), ("size", "5")])

/-- The names are stored as they are typed, and so is a text with blanks and brackets in it. -/
theorem Session.answered_typed_petNames :
    (FieldKey.Fits ⟨0, 0, 0, 1, 0⟩ ∧ KeyExtension.Single ⟨none, none⟩ ∧
      KeyExtension.Single ⟨some 0, none⟩ ∧ petNames.TypedAs petNames.toJson.compact ∧
      AnswerValue.TypedAs (.text "Rex,  [Tom]\tset") "Rex,  [Tom]\tset") ∧
    (∃ next : Session,
      (∀ spacing : Spacing, Shell.Step "now" ⟨.petSurvey, ⟨Document.noPets, .empty⟩, .compact⟩
        (spacing.line "p0_s0_g0_q1_i0".toList petNames.toJson.compact.toList) ["ok"] next) ∧
      next.answer? "p0_s0_g0_q1_i0" = some petNames) ∧
    ∃ next : Session,
      (∀ spacing : Spacing, Shell.Step "now" ⟨.petSurvey, ⟨Document.noPets, .empty⟩, .compact⟩
        (spacing.line "p0_s0_g0_q1_i0_sub0".toList "Rex,  [Tom]\tset".toList) ["ok"] next) ∧
      next.answer? "p0_s0_g0_q1_i0_sub0" = some (.text "Rex,  [Tom]\tset") := by
  have hfits : FieldKey.Fits ⟨0, 0, 0, 1, 0⟩ := by decide
  have hown : KeyExtension.Single ⟨none, none⟩ := .inl rfl
  have hsub : KeyExtension.Single ⟨some 0, none⟩ := .inr rfl
  have hnames : petNames.TypedAs petNames.toJson.compact := .json rfl trivial
  have htext : AnswerValue.TypedAs (.text "Rex,  [Tom]\tset") "Rex,  [Tom]\tset" :=
    .text (Text.trimmed_of_trim_eq_self (by decide) (by decide)) (by decide) (by simp)
  refine ⟨⟨hfits, hown, hsub, hnames, htext⟩, ?_, ?_⟩
  · obtain ⟨next, hstep, hstored, -⟩ := answered_typed
      ⟨.petSurvey, ⟨Document.noPets, .empty⟩, .compact⟩ "now" hfits hown hnames
    exact ⟨next, hstep, hstored⟩
  · obtain ⟨next, hstep, hstored, -⟩ := answered_typed
      ⟨.petSurvey, ⟨Document.noPets, .empty⟩, .compact⟩ "now" hfits hsub htext
    exact ⟨next, hstep, hstored⟩

end Questionnaire
