import Questionnaire.Proofs.Address.Extension
import Questionnaire.Proofs.Submission.Details

/-! # Which answers some form reads

A form reads an answer if it is validated or submitted differently with another one in its place
(`Document.Reads`). Every key of a field, a sub-question or a free text is read by some form: by one
that has just the right question at the right place (`Document.around`), and that is submitted
differently with the answer and without (`Document.reads_own`, `Document.reads_detail`). No form
reads any other key (`Document.readSomewhere_iff`). -/

namespace Questionnaire

/-- Just enough instances of the group of a field. -/
def InstanceTable.upTo (field : FieldKey) : InstanceTable :=
  Table.empty.insert field.groupKey (field.instanceIndex + 1)

namespace Document

/-- All fields of a form have 64-bit coordinates. -/
def Addressable (document : Document) (instances : InstanceTable) : Prop :=
  ∀ entry ∈ document.liveFields instances, entry.1.Fits

/-- Whether a form is validated or submitted differently when nothing but the answer at a key is
different. -/
def Reads (document : Document) (instances : InstanceTable) (key : String) : Prop :=
  ∃ answers former : AnswerStore, (∀ other, other ≠ key → answers.get? other = former.get? other) ∧
    (document.validate ⟨answers, instances⟩ ≠ document.validate ⟨former, instances⟩ ∨
      ∃ exportedAt, document.interactiveSubmission ⟨answers, instances⟩ exportedAt ≠
        document.interactiveSubmission ⟨former, instances⟩ exportedAt)

/-- Whether some form reads the answer at a key. -/
def ReadSomewhere (key : String) : Prop :=
  ∃ (document : Document) (instances : InstanceTable),
    document.Addressable instances ∧ document.Reads instances key

end Document

/-! ### What is read -/

theorem FieldKey.Owns.exists_extension {field : FieldKey} {key : String} (h : field.Owns key) :
    ∃ extension, key = field.extended extension := by
  cases h with
  | answer => exact ⟨⟨none, none⟩, rfl⟩
  | sub n => exact ⟨⟨some n, none⟩, rfl⟩
  | detail n => exact ⟨⟨none, some n⟩, rfl⟩
  | subDetail n m => exact ⟨⟨some n, some m⟩, rfl⟩

namespace Document

variable {document : Document} {instances : InstanceTable} {answers former : AnswerStore}

theorem Addressable.fits (h : document.Addressable instances) {state : FormState}
    (hinstances : state.instances = instances) {field : FieldKey} {shown : Bool}
    (hshown : (document.visibility state .visible).get? field = some shown) : field.Fits := by
  rw [get?_visibility, hinstances] at hshown
  split at hshown
  · rename_i hlive
    obtain ⟨question, hquestion, -⟩ := Option.map_eq_some_iff.1 hshown
    exact h (field, field.coords, question) (mem_liveFields_iff.2 ⟨rfl, hquestion, hlive⟩)
  · cases hshown

/-- A form reads only what is stored for its fields. -/
theorem exists_extension_of_reads (haddressable : document.Addressable instances) {key : String}
    (h : document.Reads instances key) :
    ∃ (field : FieldKey) (extension : KeyExtension),
      field.Fits ∧ key = field.extended extension := by
  by_contra hno
  push Not at hno
  obtain ⟨answers, former, hagree, hdiffer⟩ := h
  have hconsulted (other : String) (hother : document.Consults instances other) :
      answers.get? other = former.get? other := by
    obtain ⟨parent, rfl, shown, hshown⟩ := live_of_consults answers hother
    exact hagree _ (hno parent ⟨none, none⟩ (haddressable.fits rfl hshown)).symm
  have hdisclosed (other : String) (hother : document.Discloses ⟨answers, instances⟩ other) :
      answers.get? other = former.get? other := by
    obtain ⟨field, question, hvisible, howned⟩ := hother
    obtain ⟨extension, rfl⟩ := howned.exists_extension
    have hfits := haddressable.fits rfl (mem_visibleFields_iff.1 hvisible).2
    exact hagree _ (hno field extension hfits).symm
  have halike := submitsAlike_of_discloses (showsAlike_of_consults hconsulted .visible) hdisclosed
  rcases hdiffer with hreport | ⟨exportedAt, hsubmission⟩
  · exact hreport halike.report
  · exact hsubmission (halike.interactive exportedAt)

/-! ### Telling submissions apart -/

/-- Submissions that are the same have the same entry for every question that is asked. -/
theorem answerEntry_eq_of_interactiveSubmission_eq {exportedAt : String}
    (hshown : document.ShowsAlike instances answers former .visible)
    (hsame : document.interactiveSubmission ⟨answers, instances⟩ exportedAt =
      document.interactiveSubmission ⟨former, instances⟩ exportedAt)
    {field : FieldKey} {question part : Question} {suffix : String}
    (hvisible : (field, question) ∈ document.visibleFields ⟨answers, instances⟩)
    (hanswerable : question.answerType.isAnswerable = true)
    (hpart : (suffix, part) ∈ question.enteredParts) :
    answerEntry answers (field.text ++ suffix) part =
      answerEntry former (field.text ++ suffix) part := by
  have hi := lt_liveInstances_of_mem_visibleFields hvisible
  obtain ⟨group, hgroup, -⟩ := question?_eq_some_iff.1 (mem_visibleFields_iff.1 hvisible).1
  change document.group? field.groupKey = some group at hgroup
  have hasked := (mem_askedQuestions_iff hgroup).2
    ⟨field, question, suffix, hvisible, hanswerable, hpart, rfl, rfl, rfl⟩
  have halike : document.askedQuestions ⟨answers, instances⟩ field.groupKey group
      field.instanceIndex = document.askedQuestions ⟨former, instances⟩ field.groupKey group
        field.instanceIndex := by
    rw [askedQuestions, askedQuestions, showsAlike_iff.1 hshown]
  -- both submissions list the entries of the instance in the order of the questions
  obtain ⟨found, hfound, -, hentry⟩ := instanceAt?_interactiveSubmission_eq_some_iff.1 <|
    hsame ▸ instanceAt?_interactiveSubmission_eq_some_iff.2 ⟨group, hgroup, hi, rfl⟩
  obtain rfl := Option.some.inj (hgroup.symm.trans hfound)
  have hentries := (@instanceEntry_records _ ⟨answers, instances⟩ _ _ _ hgroup hi).entries
  rw [← hentry, (@instanceEntry_records _ ⟨former, instances⟩ _ _ _ hgroup hi).entries,
    ← halike] at hentries
  exact (List.map_inj_left.1 hentries _ hasked).symm

/-! ### A form around a question -/

theorem getElem?_replicate_concat_eq_some_iff {α : Type} {n k : Nat} {a b c : α} :
    (List.replicate n a ++ [b])[k]? = some c ↔ (k < n ∧ a = c) ∨ (k = n ∧ b = c) := by
  rcases Nat.lt_trichotomy k n with hk | rfl | hk
  · simp [List.getElem?_append_left, hk, Nat.ne_of_lt hk]
  · simp
  · have hlength : (List.replicate n a ++ [b]).length ≤ k := by
      simpa using Nat.succ_le_of_lt hk
    rw [List.getElem?_eq_none hlength]
    simp only [reduceCtorEq, false_iff]
    omega

/-- A group whose last question stands at a position. -/
def groupAround (position : Nat) (question : Question) : Group :=
  ⟨"", true, List.replicate position Question.blank ++ [question]⟩

/-- The form in which a question stands at some coordinates; there are blank questions before it in
its group and nothing before the group. -/
def around (coords : QuestionCoords) (question : Question) : Document :=
  ⟨"form.pdf", List.replicate coords.pageIndex ⟨"", 1, []⟩ ++ [⟨"", 1,
    List.replicate coords.sectionIndex ⟨"", []⟩ ++ [⟨"",
      List.replicate coords.groupIndex ⟨"", false, []⟩ ++
        [groupAround coords.questionIndex question]⟩]⟩]⟩

section around

variable {coords other : QuestionCoords} {question found : Question} {field : FieldKey}

theorem group?_around :
    (around coords question).group? coords.groupKey =
      some (groupAround coords.questionIndex question) := by
  simp only [group?, around, Option.bind_eq_bind, Option.bind_eq_some_iff,
    getElem?_replicate_concat_eq_some_iff]
  exact ⟨_, .inr ⟨rfl, rfl⟩, _, getElem?_replicate_concat_eq_some_iff.2 (.inr ⟨rfl, rfl⟩),
    getElem?_replicate_concat_eq_some_iff.2 (.inr ⟨rfl, rfl⟩)⟩

/-- No other group has a question. -/
theorem groupKey_eq_of_question?_around
    (h : (around coords question).question? other = some found) :
    other.groupKey = coords.groupKey := by
  simp only [question?_eq_some_iff, group?, around, Option.bind_eq_bind, Option.bind_eq_some_iff,
    getElem?_replicate_concat_eq_some_iff] at h
  obtain ⟨group, ⟨page, ⟨-, rfl⟩ | ⟨hp, rfl⟩, part, hpart, hgroup⟩, hquestion⟩ := h
  · cases hpart
  · rcases getElem?_replicate_concat_eq_some_iff.1 hpart with ⟨-, rfl⟩ | ⟨hs, rfl⟩
    · cases hgroup
    · rcases getElem?_replicate_concat_eq_some_iff.1 hgroup with ⟨-, rfl⟩ | ⟨hg, rfl⟩
      · cases hquestion
      · exact GroupKey.coordinates_inj (by simp only [GroupKey.coordinates, hp, hs, hg]; rfl)

theorem question?_around : (around coords question).question? other = some found ↔
    other.groupKey = coords.groupKey ∧
      ((other.questionIndex < coords.questionIndex ∧ Question.blank = found) ∨
        (other.questionIndex = coords.questionIndex ∧ question = found)) := by
  constructor
  · intro h
    have hkey := groupKey_eq_of_question?_around h
    obtain ⟨group, hgroup, hfound⟩ := question?_eq_some_iff.1 h
    rw [hkey, group?_around, Option.some.injEq] at hgroup
    rw [← hgroup] at hfound
    exact ⟨hkey, getElem?_replicate_concat_eq_some_iff.1 hfound⟩
  · rintro ⟨hkey, hfound⟩
    refine question?_eq_some_iff.2 ⟨_, by rw [hkey, group?_around], ?_⟩
    exact getElem?_replicate_concat_eq_some_iff.2 hfound

theorem liveInstances_around : (around field.coords question).liveInstances (.upTo field)
    field.groupKey = field.instanceIndex + 1 := by
  have hgroup : (around field.coords question).group? field.groupKey =
      some (groupAround field.questionIndex question) := group?_around
  rw [liveInstances_of_repeatable hgroup rfl, InstanceTable.count, InstanceTable.upTo,
    Table.get?_insert, if_pos rfl, Option.getD_some]
  omega

/-- The coordinates of all fields are those of the field at most. -/
theorem addressable_around (h : field.Fits) (question : Question) :
    (around field.coords question).Addressable (.upTo field) := by
  rintro ⟨key, coords, found⟩ hentry
  obtain ⟨rfl, hquestion, hlive⟩ := mem_liveFields_iff.1 hentry
  obtain ⟨hkey, hposition⟩ := question?_around.1 hquestion
  obtain ⟨hgroup, hq, hi⟩ := FieldKey.fits_iff.1 h
  replace hkey : key.groupKey = field.groupKey := hkey
  rw [hkey, liveInstances_around] at hlive
  have hle : key.questionIndex ≤ field.questionIndex := by
    rcases hposition with ⟨hlt, -⟩ | ⟨heq, -⟩
    · exact Nat.le_of_lt hlt
    · exact Nat.le_of_eq heq
  exact FieldKey.fits_iff.2 ⟨hkey ▸ hgroup, Nat.lt_of_le_of_lt hle hq,
    Nat.lt_of_le_of_lt (Nat.le_of_lt_succ hlive) hi⟩

/-- No question of the form depends on another one. -/
theorem showsAlike_around (hquestion : question.isConditional = false) (instances : InstanceTable)
    (answers former : AnswerStore) (mode : VisibilityMode) :
    (around coords question).ShowsAlike instances answers former mode := by
  intro other found i hfound hi
  have hno : found.isConditional = false := by
    obtain ⟨-, ⟨-, rfl⟩ | ⟨-, rfl⟩⟩ := question?_around.1 hfound
    · rfl
    · exact hquestion
  simp [questionVisible, hno]

theorem mem_visibleFields_around (hquestion : question.isConditional = false)
    (answers : AnswerStore) :
    (field, question) ∈ (around field.coords question).visibleFields ⟨answers, .upTo field⟩ := by
  have hfound : (around field.coords question).question? field.coords = some question :=
    question?_around.2 ⟨rfl, .inr ⟨rfl, rfl⟩⟩
  have hlive : field.instanceIndex <
      (around field.coords question).liveInstances (.upTo field) field.groupKey := by
    rw [liveInstances_around]
    exact Nat.lt_succ_self _
  refine mem_visibleFields_iff.2 ⟨hfound, ?_⟩
  rw [get?_visibility, if_pos hlive, hfound, Option.map_some, questionVisible, hquestion]
  rfl

end around

end Document

/-! ### A question for every extension -/

namespace Question

/-- A choice whose option at a position is the only one that asks for a free text. -/
def asking (position : Nat) : Question :=
  { blank with
    answerType := .radio
    options := List.replicate position ⟨"", "", false, none⟩ ++ [⟨"other", "Other", true, none⟩] }

/-- A question that is a part of itself, or has it as the sub-question at a position. -/
def withPart (part : Question) : Option Nat → Question
  | none => part
  | some n => { blank with subQuestions := List.replicate n blank ++ [part] }

variable {part : Question}

theorem isAnswerable_withPart (h : part.answerType.isAnswerable = true) (sub : Option Nat) :
    (withPart part sub).answerType.isAnswerable = true := by
  cases sub with
  | none => exact h
  | some n => rfl

theorem isConditional_withPart (h : part.isConditional = false) (sub : Option Nat) :
    (withPart part sub).isConditional = false := by
  cases sub with
  | none => exact h
  | some n => rfl

theorem mem_enteredParts_withPart (h : part.answerType.isAnswerable = true) (sub : Option Nat) :
    (sub.elim "" (subKey ""), part) ∈ (withPart part sub).enteredParts := by
  refine mem_enteredParts_iff.2 ⟨mem_parts_iff.2 ?_, .inl h⟩
  cases sub with
  | none => exact .inl ⟨rfl, rfl⟩
  | some n =>
      exact .inr ⟨n, rfl, Document.getElem?_replicate_concat_eq_some_iff.2 (.inr ⟨rfl, rfl⟩)⟩

end Question

theorem FieldKey.optionDetailKey_extended (field : FieldKey) (sub : Option Nat) (n : Nat) :
    optionDetailKey (field.extended ⟨sub, none⟩) n = field.extended ⟨sub, some n⟩ := by
  cases sub <;> rfl

/-- An entry has details exactly if there are free texts to list. -/
theorem details_eq_nil_iff {answers : AnswerStore} {key : String} {question : Question} :
    (answerEntry answers key question).details = [] ↔ optionDetails answers key question = [] := by
  have hvalues := (byValue_optionDetails answers key question).values
  constructor
  · intro h
    rw [h, List.map_nil] at hvalues
    refine List.eq_nil_iff_forall_not_mem.2 fun detail hdetail => ?_
    have hmem := List.mem_eraseDups.2 (List.mem_map_of_mem (f := (·.2.1.value)) hdetail)
    rw [← hvalues] at hmem
    cases hmem
  · intro h
    rw [h] at hvalues
    exact List.map_eq_nil_iff.1 hvalues

namespace Document

variable {field : FieldKey} {answers former : AnswerStore} {key : String}

/-- A form reads an answer that the entry of a part depends on. -/
theorem reads_of_answerEntry_ne (hagree : ∀ other, other ≠ key →
      answers.get? other = former.get? other) {part : Question}
    (hanswerable : part.answerType.isAnswerable = true) (hpart : part.isConditional = false)
    (sub : Option Nat) (hne : answerEntry answers (field.extended ⟨sub, none⟩) part ≠
      answerEntry former (field.extended ⟨sub, none⟩) part) :
    (around field.coords (part.withPart sub)).Reads (.upTo field) key := by
  refine ⟨answers, former, hagree, .inr ⟨"", fun hsame => hne ?_⟩⟩
  have hquestion := Question.isConditional_withPart hpart sub
  have hentry := answerEntry_eq_of_interactiveSubmission_eq
    (showsAlike_around hquestion _ _ _ _) hsame (mem_visibleFields_around hquestion _)
    (Question.isAnswerable_withPart hanswerable sub)
    (Question.mem_enteredParts_withPart hanswerable sub)
  rwa [FieldKey.extended_eq, KeyExtension.text, Option.elim_none, String.append_empty]

/-- The answer to a choice is read. -/
theorem reads_own (field : FieldKey) (sub : Option Nat) (position : Nat) :
    (around field.coords ((Question.asking position).withPart sub)).Reads (.upTo field)
      (field.extended ⟨sub, none⟩) := by
  have hagree (other : String) (hother : other ≠ field.extended ⟨sub, none⟩) :
      (Table.empty.insert (field.extended ⟨sub, none⟩) (AnswerValue.text "other")).get? other =
        Table.empty.get? other := (Table.get?_insert ..).trans (if_neg hother)
  refine reads_of_answerEntry_ne hagree rfl rfl sub fun hsame => ?_
  have hanswer := congrArg AnswerEntry.answer hsame
  rw [answerEntry, answerEntry, Table.get?_insert, if_pos rfl, Table.get?_empty] at hanswer
  cases hanswer

/-- The free text beside a choice is read. -/
theorem reads_detail (field : FieldKey) (sub : Option Nat) (position : Nat) :
    (around field.coords ((Question.asking position).withPart sub)).Reads (.upTo field)
      (field.extended ⟨sub, some position⟩) := by
  have hapart (n : Nat) : field.extended ⟨sub, some n⟩ ≠ field.extended ⟨sub, none⟩ := fun h =>
    nomatch congrArg KeyExtension.detail (FieldKey.extended_inj.1 h).2
  -- the option is chosen, with its text and without
  let chosen : AnswerStore := Table.empty.insert (field.extended ⟨sub, none⟩) (.text "other")
  have hagree (other : String) (hother : other ≠ field.extended ⟨sub, some position⟩) :
      (chosen.insert (field.extended ⟨sub, some position⟩) (.text "Rat")).get? other =
        chosen.get? other := (Table.get?_insert ..).trans (if_neg hother)
  refine reads_of_answerEntry_ne hagree rfl rfl sub fun hsame => ?_
  have hnone : optionDetails chosen (field.extended ⟨sub, none⟩) (Question.asking position) =
      [] := by
    refine List.eq_nil_iff_forall_not_mem.2 fun ⟨n, option, text⟩ hmem => ?_
    obtain ⟨-, -, -, hstored, -⟩ := mem_optionDetails_iff.1 hmem
    rw [FieldKey.optionDetailKey_extended, Table.get?_insert, if_neg (hapart n),
      Table.get?_empty] at hstored
    cases hstored
  have hdetails := congrArg AnswerEntry.details hsame
  rw [details_eq_nil_iff.2 hnone, details_eq_nil_iff] at hdetails
  refine List.eq_nil_iff_forall_not_mem.1 hdetails
    (position, ⟨"other", "Other", true, none⟩, "Rat")
    (mem_optionDetails_iff.2 ⟨?_, rfl, ?_, ?_, ?_⟩)
  · exact getElem?_replicate_concat_eq_some_iff.2 (.inr ⟨rfl, rfl⟩)
  · rw [hagree _ (hapart position).symm, Table.get?_insert, if_pos rfl]
    rfl
  · rw [FieldKey.optionDetailKey_extended, Table.get?_insert, if_pos rfl]
  · decide

/-- **The keys that are read** by some form are those of the fields with 64-bit coordinates, of
their sub-questions and of the free texts beside the choices of either. -/
theorem readSomewhere_iff {key : String} : ReadSomewhere key ↔
    ∃ (field : FieldKey) (extension : KeyExtension),
      field.Fits ∧ key = field.extended extension := by
  constructor
  · rintro ⟨document, instances, haddressable, hreads⟩
    exact exists_extension_of_reads haddressable hreads
  · rintro ⟨field, ⟨sub, detail⟩, hfits, rfl⟩
    cases detail with
    | none => exact ⟨_, _, addressable_around hfits _, reads_own field sub 0⟩
    | some position => exact ⟨_, _, addressable_around hfits _, reads_detail field sub position⟩

end Document

end Questionnaire
