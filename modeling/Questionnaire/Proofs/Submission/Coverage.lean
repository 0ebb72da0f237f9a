import Questionnaire.Proofs.Disclosure
import Questionnaire.Proofs.Mirror

/-! # What is checked and what is submitted

Validation and the interactive submission go through a form in two ways. The submission has an entry
for every question that is shown and takes an answer, and for those of its sub-questions that take
one (`Document.enters_iff`); validation checks all of these as well, and says of their keys what
their own rules say (`Document.mem_validate_iff_of_enters`). Beyond them it checks the sub-questions
of a question that is shown but takes no answer (`Document.Strays`). These are the only keys that
are reported without an entry (`Document.validate_entered`), and they are indeed reported
(`Document.validate_strays`). -/

namespace Questionnaire

/-! ### Parts of a question -/

namespace Question

variable {question part other : Question} {suffix : String}

/-- Only a question that takes an answer is reported. -/
theorem isAnswerable_of_validateAnswer {answer : Option AnswerValue} {message : String}
    (h : question.validateAnswer answer = some message) :
    question.answerType.isAnswerable = true := by
  by_contra hno
  rw [validateAnswer, checkAnswer, if_neg hno] at h
  cases h

theorem mem_parts_iff : (suffix, part) ∈ question.parts ↔
    (suffix = "" ∧ part = question) ∨
      ∃ n, suffix = subKey "" n ∧ question.subQuestions[n]? = some part := by
  simp only [parts, List.mem_cons, Prod.mk.injEq, List.mem_map, Prod.exists,
    List.mem_zipIdx_iff_getElem?]
  refine or_congr_right ⟨?_, ?_⟩
  · rintro ⟨sub, n, hsub, rfl, rfl⟩
    exact ⟨n, rfl, hsub⟩
  · rintro ⟨n, rfl, hsub⟩
    exact ⟨part, n, hsub, rfl, rfl⟩

/-- The parts of a question are told apart by what follows its key in theirs. -/
theorem part_eq_of_mem_parts (h : (suffix, part) ∈ question.parts)
    (hother : (suffix, other) ∈ question.parts) : part = other := by
  rcases mem_parts_iff.1 h with ⟨rfl, rfl⟩ | ⟨n, rfl, hsub⟩
  · rcases mem_parts_iff.1 hother with ⟨-, rfl⟩ | ⟨n, hempty, -⟩
    · rfl
    · exact (subKey_ne_empty n hempty.symm).elim
  · rcases mem_parts_iff.1 hother with ⟨hempty, -⟩ | ⟨m, hsuffix, hsub'⟩
    · exact (subKey_ne_empty n hempty).elim
    · obtain rfl := subKey_injective hsuffix
      exact Option.some.inj (hsub.symm.trans hsub')

/-- The parts that have an entry are the question and every sub-question that takes an answer. -/
theorem mem_enteredParts_iff : (suffix, part) ∈ question.enteredParts ↔
    (suffix, part) ∈ question.parts ∧
      (part.answerType.isAnswerable = true ∨ (suffix = "" ∧ part = question)) := by
  rw [enteredParts, parts, List.tail_cons, List.mem_cons, List.mem_cons, List.mem_filter,
    Prod.mk.injEq]
  tauto

end Question

/-! ### Entries and their questions -/

/-- The entry of an instance of a group. -/
def InteractiveSubmission.instanceAt? (submission : InteractiveSubmission) (group : GroupKey)
    (i : Nat) : Option InstanceEntry :=
  (submission.group? group).bind fun entry => entry.instances[i]?

namespace Document

variable {document : Document} {state : FormState} {exportedAt : String} {group : GroupKey}
  {i : Nat} {key : String} {part : Question} {entry : AnswerEntry}

/-- The question at a key has an entry in an instance of a group: the entry stands at the place
that the question has among those asked there. -/
def Enters (document : Document) (state : FormState) (submission : InteractiveSubmission)
    (group : GroupKey) (i : Nat) (key : String) (part : Question) (entry : AnswerEntry) : Prop :=
  ∃ (found : Group) (filled : InstanceEntry) (n : Nat) (slug : String),
    document.group? group = some found ∧ submission.instanceAt? group i = some filled ∧
      (document.askedQuestions state group found i)[n]? = some (key, part) ∧
        filled.questions[n]? = some (slug, entry)

theorem instanceAt?_interactiveSubmission_eq_some_iff {filled : InstanceEntry} :
    (document.interactiveSubmission state exportedAt).instanceAt? group i = some filled ↔
      ∃ found, document.group? group = some found ∧
        i < document.liveInstances state.instances group ∧
          instanceEntry state document.index group found i = filled := by
  simp only [InteractiveSubmission.instanceAt?, group?_interactiveSubmission,
    Option.bind_eq_some_iff, Option.map_eq_some_iff]
  constructor
  · rintro ⟨_, ⟨found, hfound, rfl⟩, hfilled⟩
    obtain ⟨j, hj, rfl⟩ := Option.map_eq_some_iff.1 (List.getElem?_map.symm.trans hfilled)
    obtain ⟨hlt, rfl⟩ := List.getElem?_eq_some_iff.1 hj
    rw [List.length_range] at hlt
    exact ⟨found, hfound, hlt, by rw [List.getElem_range]⟩
  · rintro ⟨found, hfound, hlt, rfl⟩
    refine ⟨_, ⟨found, hfound, rfl⟩, ?_⟩
    rw [groupEntry, List.getElem?_map, List.getElem?_range hlt, Option.map_some]

/-- The questions asked at an instance are parts of the questions that are shown there and take an
answer. -/
theorem mem_askedQuestions_iff {found : Group} (hfound : document.group? group = some found) :
    (key, part) ∈ document.askedQuestions state group found i ↔
      ∃ field question suffix, (field, question) ∈ document.visibleFields state ∧
        question.answerType.isAnswerable = true ∧ (suffix, part) ∈ question.enteredParts ∧
          field.groupKey = group ∧ field.instanceIndex = i ∧ key = field.text ++ suffix := by
  simp only [askedQuestions, ← enteredQuestions_eq, enteredQuestions_eq_map_parts,
    List.mem_flatMap, Prod.exists, mem_questionsAt_iff]
  constructor
  · rintro ⟨coords, question, ⟨rfl, hquestion⟩, h⟩
    split at h
    · rename_i hasked
      rw [Bool.and_eq_true, beq_iff_eq] at hasked
      obtain ⟨⟨suffix, sub⟩, hpart, heq⟩ := List.mem_map.1 h
      obtain ⟨rfl, rfl⟩ := Prod.mk.inj heq
      have hvisible : (coords.fieldKey i, question) ∈ document.visibleFields state :=
        mem_visibleFields_iff.2 ⟨question?_eq_some_iff.2 ⟨found, hfound, hquestion⟩, hasked.2⟩
      exact ⟨_, question, suffix, hvisible, hasked.1, hpart, rfl, rfl, rfl⟩
    · cases h
  · rintro ⟨field, question, suffix, hvisible, hanswerable, hpart, rfl, rfl, rfl⟩
    obtain ⟨hquestion, hshown⟩ := mem_visibleFields_iff.1 hvisible
    obtain ⟨found', hfound', hget⟩ := question?_eq_some_iff.1 hquestion
    obtain rfl : found' = found := Option.some.inj (hfound'.symm.trans hfound)
    refine ⟨field.coords, question, ⟨rfl, hget⟩, ?_⟩
    rw [FieldKey.fieldKey_coords, hanswerable, hshown, if_pos (by simp)]
    exact List.mem_map.2 ⟨(suffix, part), hpart, rfl⟩

/-- The entries of an instance stand where the questions asked there do. -/
theorem getElem?_questions_instanceEntry {found : Group}
    (hfound : document.group? group = some found)
    (hi : i < document.liveInstances state.instances group) (n : Nat) :
    ((instanceEntry state document.index group found i).questions[n]?).map (·.2) =
      ((document.askedQuestions state group found i)[n]?).map fun (key, part) =>
        answerEntry state.answers key part := by
  have hentries := congrArg (·[n]?) (instanceEntry_records hfound hi).entries
  rwa [List.getElem?_map, List.getElem?_map] at hentries

/-- The submission has entries for the questions that are shown and take an answer, and for those of
their sub-questions that take one. -/
theorem enters_iff :
    document.Enters state (document.interactiveSubmission state exportedAt) group i key part entry ↔
      ∃ field question suffix, (field, question) ∈ document.visibleFields state ∧
        question.answerType.isAnswerable = true ∧ (suffix, part) ∈ question.enteredParts ∧
          field.groupKey = group ∧ field.instanceIndex = i ∧ key = field.text ++ suffix ∧
            entry = answerEntry state.answers key part := by
  constructor
  · rintro ⟨found, filled, n, slug, hfound, hfilled, hasked, hentry⟩
    obtain ⟨_, hfound', hi, rfl⟩ := instanceAt?_interactiveSubmission_eq_some_iff.1 hfilled
    obtain rfl := Option.some.inj (hfound.symm.trans hfound')
    have hsame := getElem?_questions_instanceEntry hfound hi n
    rw [hentry, hasked] at hsame
    obtain ⟨field, question, suffix, hvisible, hanswerable, hpart, hgroup, hindex, rfl⟩ :=
      (mem_askedQuestions_iff hfound).1 (List.mem_of_getElem? hasked)
    exact ⟨field, question, suffix, hvisible, hanswerable, hpart, hgroup, hindex, rfl,
      Option.some.inj hsame⟩
  · rintro ⟨field, question, suffix, hvisible, hanswerable, hpart, rfl, rfl, rfl, rfl⟩
    have hi := lt_liveInstances_of_mem_visibleFields hvisible
    obtain ⟨found, hfound, -⟩ := question?_eq_some_iff.1 (mem_visibleFields_iff.1 hvisible).1
    obtain ⟨n, hasked⟩ := List.mem_iff_getElem?.1 ((mem_askedQuestions_iff hfound).2
      ⟨field, question, suffix, hvisible, hanswerable, hpart, rfl, rfl, rfl⟩)
    have hsame := getElem?_questions_instanceEntry hfound hi n
    rw [hasked, Option.map_some] at hsame
    obtain ⟨⟨slug, entry⟩, hentry, rfl⟩ := Option.map_eq_some_iff.1 hsame
    exact ⟨found, _, n, slug, hfound,
      instanceAt?_interactiveSubmission_eq_some_iff.2 ⟨found, hfound, hi, rfl⟩, hasked, hentry⟩

/-- Every entry of an instance is that of a question. -/
theorem exists_enters {filled : InstanceEntry} {n : Nat} {slug : String}
    (hfilled : (document.interactiveSubmission state exportedAt).instanceAt? group i = some filled)
    (hentry : filled.questions[n]? = some (slug, entry)) :
    ∃ key part, document.Enters state (document.interactiveSubmission state exportedAt) group i key
      part entry := by
  obtain ⟨found, hfound, hi, rfl⟩ := instanceAt?_interactiveSubmission_eq_some_iff.1 hfilled
  have hsame := getElem?_questions_instanceEntry hfound hi n
  rw [hentry, Option.map_some] at hsame
  obtain ⟨⟨key, part⟩, hasked, -⟩ := Option.map_eq_some_iff.1 hsame.symm
  exact ⟨key, part, found, _, n, slug, hfound, hfilled, hasked, hentry⟩

/-! ### Reports and their questions -/

/-- The key of a sub-question of a question that is shown but takes no answer. -/
def Strays (document : Document) (state : FormState) (key : String) : Prop :=
  ∃ field question n, (field, question) ∈ document.visibleFields state ∧
    question.answerType.isAnswerable = false ∧ n < question.subQuestions.length ∧
      key = field.sub n

/-- The key of a part of a question that is shown belongs to no other one. -/
theorem eq_of_mem_parts {field other : FieldKey} {question question' part' : Question}
    {suffix suffix' : String} (hvisible : (field, question) ∈ document.visibleFields state)
    (hvisible' : (other, question') ∈ document.visibleFields state)
    (hpart : (suffix, part) ∈ question.parts) (hpart' : (suffix', part') ∈ question'.parts)
    (hkey : field.text ++ suffix = other.text ++ suffix') :
    field = other ∧ question = question' ∧ part = part' := by
  obtain ⟨rfl, rfl⟩ := FieldKey.text_append_inj (Question.endsCoordinate_of_mem_parts hpart)
    (Question.endsCoordinate_of_mem_parts hpart') hkey
  have hquestion := (mem_visibleFields_iff.1 hvisible).1
  obtain rfl := Option.some.inj (hquestion.symm.trans (mem_visibleFields_iff.1 hvisible').1)
  exact ⟨rfl, rfl, Question.part_eq_of_mem_parts hpart hpart'⟩

/-- The report says of a question with an entry what its own rules say of its answer. -/
theorem mem_validate_iff_of_enters
    (h : document.Enters state (document.interactiveSubmission state exportedAt) group i key part
      entry) (message : String) :
    (key, message) ∈ document.validate state ↔
      part.validateAnswer (state.answers.get? key) = some message := by
  obtain ⟨field, question, suffix, hvisible, -, hentered, -, -, rfl, -⟩ := enters_iff.1 h
  have hpart := Question.mem_parts_of_mem_enteredParts hentered
  rw [mem_validate_iff]
  constructor
  · rintro ⟨other, question', suffix', part', hvisible', hpart', hkey, hmessage⟩
    obtain ⟨-, -, rfl⟩ := eq_of_mem_parts hvisible hvisible' hpart hpart' hkey
    exact hmessage
  · intro hmessage
    exact ⟨field, question, suffix, part, hvisible, hpart, rfl, hmessage⟩

/-- A key that strays belongs to no entry. -/
theorem Strays.not_enters (h : document.Strays state key) :
    ¬ document.Enters state (document.interactiveSubmission state exportedAt) group i key part
      entry := by
  intro henters
  obtain ⟨field, question, n, hvisible, hno, hn, rfl⟩ := h
  obtain ⟨other, question', suffix, hvisible', hanswerable, hentered, -, -, hkey, -⟩ :=
    enters_iff.1 henters
  rw [FieldKey.sub_eq] at hkey
  have hsub : (subKey "" n, question.subQuestions[n]) ∈ question.parts :=
    Question.mem_parts_iff.2 (.inr ⟨n, rfl, List.getElem?_eq_getElem hn⟩)
  obtain ⟨-, rfl, -⟩ := eq_of_mem_parts hvisible hvisible' hsub
    (Question.mem_parts_of_mem_enteredParts hentered) hkey
  rw [hno] at hanswerable
  cases hanswerable

/-- A key that is reported belongs to an entry or strays. -/
theorem enters_or_strays_of_mem_validate {message : String}
    (h : (key, message) ∈ document.validate state) (exportedAt : String) :
    (∃ (field : FieldKey) (part : Question) (entry : AnswerEntry), field.Covers key ∧
      document.Enters state (document.interactiveSubmission state exportedAt) field.groupKey
        field.instanceIndex key part entry) ∨ document.Strays state key := by
  obtain ⟨field, question, suffix, part, hvisible, hpart, rfl, hmessage⟩ := mem_validate_iff.1 h
  have hreported := Question.isAnswerable_of_validateAnswer hmessage
  have hcovers : field.Covers (field.text ++ suffix) :=
    ⟨suffix, Question.endsCoordinate_of_mem_parts hpart, rfl⟩
  cases hanswerable : question.answerType.isAnswerable with
  | true =>
      have hentered := Question.mem_enteredParts_iff.2 ⟨hpart, .inl hreported⟩
      exact .inl ⟨field, part, _, hcovers, enters_iff.2
        ⟨field, question, suffix, hvisible, hanswerable, hentered, rfl, rfl, rfl, rfl⟩⟩
  | false =>
      -- the question itself is not reported, so the part is a sub-question
      rcases Question.mem_parts_iff.1 hpart with ⟨-, rfl⟩ | ⟨n, rfl, hsub⟩
      · rw [hanswerable] at hreported
        cases hreported
      · obtain ⟨hn, -⟩ := List.getElem?_eq_some_iff.1 hsub
        exact .inr ⟨field, question, n, hvisible, hanswerable, hn, (field.sub_eq n).symm⟩

/-- **What is checked is submitted, and what is submitted is checked**, but for the sub-questions of
a question that takes no answer: a key that is reported belongs to an entry of the submission, in
the instance that the key names, exactly if it does not stray; and every entry of the submission is
that of a question of whose key the report says what the question's rules say of its answer. -/
theorem validate_entered (document : Document) (state : FormState) (exportedAt : String) :
    (∀ key message, (key, message) ∈ document.validate state →
      ((∃ (field : FieldKey) (part : Question) (entry : AnswerEntry), field.Covers key ∧
        document.Enters state (document.interactiveSubmission state exportedAt) field.groupKey
          field.instanceIndex key part entry) ↔ ¬ document.Strays state key)) ∧
    ∀ (group : GroupKey) (i n : Nat) (filled : InstanceEntry) (slug : String) (entry : AnswerEntry),
      (document.interactiveSubmission state exportedAt).instanceAt? group i = some filled →
      filled.questions[n]? = some (slug, entry) →
        ∃ key part, document.Enters state (document.interactiveSubmission state exportedAt) group i
            key part entry ∧
          ∀ message, (key, message) ∈ document.validate state ↔
            part.validateAnswer (state.answers.get? key) = some message := by
  refine ⟨fun key message hreported => ⟨?_, ?_⟩, ?_⟩
  · rintro ⟨field, part, entry, -, henters⟩ hstrays
    exact hstrays.not_enters henters
  · exact (enters_or_strays_of_mem_validate hreported exportedAt).resolve_right
  · intro group i n filled slug entry hfilled hentry
    obtain ⟨key, part, henters⟩ := exists_enters hfilled hentry
    exact ⟨key, part, henters, mem_validate_iff_of_enters henters⟩

/-- A notice that has to be confirmed. -/
def notice : Document :=
  ⟨"notice.pdf", [⟨"", 1, [⟨"", [⟨"", false, [
    { Question.blank with
      id := "notice", text := "Dogs must be registered.", answerType := .displayText
      subQuestions := [{ Question.blank with
        id := "read", text := "Read?", required := true }] }]⟩]⟩]⟩]⟩

/-- That the notice has been read is demanded, and is not submitted. -/
theorem validate_strays :
    (FieldKey.sub ⟨0, 0, 0, 0, 0⟩ 0, "This field is required") ∈ notice.validate .empty ∧
      ¬ ∃ field part entry, FieldKey.Covers field (FieldKey.sub ⟨0, 0, 0, 0, 0⟩ 0) ∧
        notice.Enters .empty (notice.interactiveSubmission .empty "2026-01-01T00:00:00Z")
          field.groupKey field.instanceIndex (FieldKey.sub ⟨0, 0, 0, 0, 0⟩ 0) part entry := by
  have hreported : notice.validate .empty =
      [(FieldKey.sub ⟨0, 0, 0, 0, 0⟩ 0, "This field is required")] := by decide
  have hstrays : notice.Strays .empty (FieldKey.sub ⟨0, 0, 0, 0, 0⟩ 0) :=
    ⟨⟨0, 0, 0, 0, 0⟩, _, 0, List.mem_singleton_self _, rfl, by decide, rfl⟩
  refine ⟨hreported ▸ List.mem_singleton_self _, ?_⟩
  rintro ⟨field, part, entry, -, henters⟩
  exact hstrays.not_enters henters

end Document

end Questionnaire
