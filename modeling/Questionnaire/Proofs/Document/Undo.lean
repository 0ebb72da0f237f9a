import Questionnaire.Proofs.Document.Places

/-! # Undoing edits

An edit of a consistent document is undone by another edit: what is inserted can be removed, what
is moved can be moved back, and what is replaced can be put in place again
(`Document.edit_undone`). On the document itself the two changes cancel, as both are made at the
same place of the same group; that the second edit finds its question, and leaves every other one
alone, follows from the consistency of the documents. -/

namespace Questionnaire

/-- To change an entry into itself is to change nothing. -/
theorem modify_eq_self {α : Type} {entries : List α} {i : Nat} {change : α → α}
    (h : ∀ entry, entries[i]? = some entry → change entry = entry) :
    entries.modify i change = entries := by
  refine List.ext_getElem? fun k => ?_
  rw [List.getElem?_modify]
  cases hget : entries[k]? with
  | none => rfl
  | some entry =>
      by_cases hk : i = k
      · subst hk
        simp [h entry hget]
      · simp [hk]

theorem map_eq_self {α : Type} {entries : List α} {change : α → α}
    (h : ∀ entry ∈ entries, change entry = entry) : entries.map change = entries := by
  rw [List.map_congr_left h, List.map_id']

/-- In a linked row every parent is a question of the row. -/
theorem Linked.exists_parent {questions : List Question} (h : Linked questions)
    {question : Question} (hquestion : question ∈ questions) {parent : QuestionId}
    (hparent : question.parent = some parent) : ∃ found ∈ questions, found.id = parent := by
  obtain ⟨before, after, rfl⟩ := List.append_of_mem hquestion
  obtain ⟨found, hfound, hid, -⟩ := h.links before question after rfl parent hparent
  exact ⟨found, List.mem_append_left _ hfound, hid⟩

namespace Document

variable {document next : Document} {key : GroupKey} {coords : QuestionCoords}
  {question : Question} {id : QuestionId}

/-! ### Changes that cancel -/

theorem modifyGroup_modifyGroup (document : Document) (key : GroupKey)
    (first second : Group → Group) :
    (document.modifyGroup key first).modifyGroup key second =
      document.modifyGroup key (second ∘ first) := by
  simp only [modifyGroup, List.modify_modify_eq, Function.comp_def]

/-- To change a group into itself is to change nothing. -/
theorem modifyGroup_eq_self {change : Group → Group}
    (h : ∀ group, document.group? key = some group → change group = group) :
    document.modifyGroup key change = document := by
  refine congrArg (Document.mk document.sourceName) (modify_eq_self fun page hpage => ?_)
  refine congrArg (Page.mk page.title page.pageNumber) (modify_eq_self fun part hpart => ?_)
  refine congrArg (Section.mk part.title) (modify_eq_self fun group hgroup => ?_)
  refine h group ?_
  simp only [group?, hpage, hpart, hgroup, Option.bind_eq_bind, Option.bind_some]

theorem modifyQuestions_modifyQuestions (document : Document) (key : GroupKey)
    (first second : List Question → List Question) :
    (document.modifyQuestions key first).modifyQuestions key second =
      document.modifyQuestions key (second ∘ first) :=
  modifyGroup_modifyGroup document key _ _

theorem modifyQuestions_eq_self {change : List Question → List Question}
    (h : ∀ group, document.group? key = some group → change group.questions = group.questions) :
    document.modifyQuestions key change = document := by
  refine modifyGroup_eq_self fun group hgroup => ?_
  rw [h group hgroup]

/-- To take out what has been inserted gives the former document. -/
theorem takeOut_withInserted (document : Document) (key : GroupKey) (position : Nat)
    (question : Question) :
    (document.withInserted key position question).takeOut (key.question position) = document := by
  rw [withInserted, takeOut, GroupKey.groupKey_question, modifyQuestions_modifyQuestions]
  refine modifyQuestions_eq_self fun group _ => ?_
  exact List.eraseIdx_insertIdx_self question

/-- So does to insert again what has been taken out. -/
theorem withInserted_takeOut (hquestion : document.question? coords = some question) :
    (document.takeOut coords).withInserted coords.groupKey coords.questionIndex question =
      document := by
  obtain ⟨group, hgroup, hget⟩ := question?_eq_some_iff.1 hquestion
  obtain ⟨hlt, rfl⟩ := List.getElem?_eq_some_iff.1 hget
  rw [takeOut, withInserted, modifyQuestions_modifyQuestions]
  refine modifyQuestions_eq_self fun other hother => ?_
  obtain rfl := Option.some.inj (hgroup.symm.trans hother)
  exact List.insertIdx_eraseIdx_getElem hlt

theorem exists_group?_takeOut (hquestion : document.question? coords = some question) :
    ∃ group, (document.takeOut coords).group? coords.groupKey = some group ∧
      coords.questionIndex ≤ group.questions.length := by
  obtain ⟨group, hgroup, hget⟩ := question?_eq_some_iff.1 hquestion
  obtain ⟨hlt, -⟩ := List.getElem?_eq_some_iff.1 hget
  refine ⟨{ group with questions := group.questions.eraseIdx coords.questionIndex }, ?_, ?_⟩
  · rw [takeOut, modifyQuestions, group?_modifyGroup, if_pos rfl, hgroup]
    rfl
  · rw [List.length_eraseIdx_of_lt hlt]
    omega

/-- So does to put a question in its place again after it has been replaced. -/
theorem withReplaced_withReplaced (hquestion : document.question? coords = some question)
    (replacement : Question) :
    (document.withReplaced coords replacement).withReplaced coords question = document := by
  obtain ⟨group, hgroup, hget⟩ := question?_eq_some_iff.1 hquestion
  obtain ⟨hlt, rfl⟩ := List.getElem?_eq_some_iff.1 hget
  rw [withReplaced, withReplaced, modifyQuestions_modifyQuestions]
  refine modifyQuestions_eq_self fun other hother => ?_
  obtain rfl := Option.some.inj (hgroup.symm.trans hother)
  rw [Function.comp_apply, List.set_set, List.set_getElem_self]

/-- To change every question into itself is to change nothing. -/
theorem mapQuestions_eq_self {change : Question → Question}
    (h : ∀ question ∈ document.sequence, change question = question) :
    document.mapQuestions change = document := by
  rw [sequence_eq_flatMap] at h
  refine congrArg (Document.mk document.sourceName) (map_eq_self fun page hpage => ?_)
  refine congrArg (Page.mk page.title page.pageNumber) (map_eq_self fun part hpart => ?_)
  refine congrArg (Section.mk part.title) (map_eq_self fun group hgroup => ?_)
  refine congrArg (Group.mk group.title group.repeatable) (map_eq_self fun question hquestion => ?_)
  refine h question ?_
  simp only [List.mem_flatMap]
  exact ⟨page, hpage, part, hpart, group, hgroup, hquestion⟩

theorem unlink_of_parent_ne (h : question.parent ≠ some id) : unlink id question = question :=
  if_neg h

theorem question_with_id (h : question.id = id) : { question with id } = question := by
  subst h
  cases question
  rfl

/-! ### Edits that undo edits -/

section consistent

variable (hcheck : document.checkDependencies = [])
include hcheck

/-- No question depends on one that is not there, so nothing is freed with an inserted question. -/
theorem edit_remove_of_insert {position : Option Nat}
    (h : document.edit (.insert key position question) = .ok next) :
    next.edit (.remove question.id) = .ok document := by
  obtain ⟨group, hgroup, hposition, rfl, hnext⟩ := place_eq_ok_iff.1 h
  obtain ⟨hnew, -⟩ := (checkDependencies_withInserted_iff hcheck hgroup hposition).1 hnext
  have hlocate := locate?_of_question? hnext (question?_withInserted_self hgroup hposition)
  have hlinked := checkDependencies_eq_nil_iff.1 hcheck
  have hkept : document.mapQuestions (unlink question.id) = document := by
    refine mapQuestions_eq_self fun other hother => unlink_of_parent_ne fun hparent => ?_
    obtain ⟨found, hfound, hid⟩ := hlinked.exists_parent hother hparent
    obtain ⟨entry, hentry, rfl⟩ := List.mem_map.1 hfound
    exact hnew entry hentry hid
  refine removeQuestion_eq_ok_iff.2 ⟨_, hlocate, ?_, hcheck⟩
  rw [takeOut_withInserted, hkept]

theorem edit_move_of_move {position : Nat} (h : document.edit (.move id key position) = .ok next)
    (hlocate : document.locate? id = some coords) :
    next.edit (.move id coords.groupKey coords.questionIndex) = .ok document := by
  obtain ⟨place, moved, group, hplace, hmoved, hid, hgroup, hposition, rfl, hnext⟩ :=
    moveQuestion_eq_ok_iff.1 h
  obtain rfl := Option.some.inj (hplace.symm.trans hlocate)
  subst hid
  have hthere : ((document.takeOut place).withInserted key position moved).question?
      (key.question position) = some moved := question?_withInserted_self hgroup hposition
  have hfound := locate?_of_question? hnext hthere
  obtain ⟨former, hformer, hle⟩ := exists_group?_takeOut hmoved
  refine moveQuestion_eq_ok_iff.2 ⟨_, moved, former, hfound, hthere, rfl, ?_, hle, ?_, hcheck⟩
  · rw [takeOut_withInserted]
    exact hformer
  · rw [takeOut_withInserted, withInserted_takeOut hmoved]

theorem edit_update_of_update {replacement : Question}
    (h : document.edit (.update question.id replacement) = .ok next)
    (hquestion : question ∈ document.sequence) :
    next.edit (.update question.id question) = .ok document := by
  obtain ⟨place, hplace, rfl, hnext⟩ := updateQuestion_eq_ok_iff.1 h
  obtain ⟨coords, hformer⟩ : ∃ coords, document.question? coords = some question := by
    obtain ⟨entry, hentry, rfl⟩ := List.mem_map.1 hquestion
    exact ⟨entry.1, mem_questions_iff.1 hentry⟩
  obtain rfl := Option.some.inj (hplace.symm.trans (locate?_of_question? hcheck hformer))
  have hthere : (document.withReplaced place
      { replacement with id := question.id }).question? place =
        some { replacement with id := question.id } := by
    rw [question?_withReplaced hformer, if_pos rfl]
  have hfound := locate?_of_question? hnext hthere
  refine updateQuestion_eq_ok_iff.2 ⟨place, hfound, ?_, hcheck⟩
  rw [question_with_id rfl, withReplaced_withReplaced hformer]

end consistent

/-- **Edits can be undone.** In a consistent document a question that has been inserted can be
removed, one that has been moved can be moved back to its former place, and one that has been
replaced can be put in place again, and each gives the very document that was edited. -/
theorem edit_undone (hcheck : document.checkDependencies = []) :
    (∀ key position question next, document.edit (.insert key position question) = .ok next →
      next.edit (.remove question.id) = .ok document) ∧
    (∀ id key position coords next, document.edit (.move id key position) = .ok next →
      document.locate? id = some coords →
        next.edit (.move id coords.groupKey coords.questionIndex) = .ok document) ∧
    ∀ id replacement former next, document.edit (.update id replacement) = .ok next →
      former ∈ document.sequence → former.id = id →
        next.edit (.update id former) = .ok document := by
  refine ⟨fun key position question next h => edit_remove_of_insert hcheck h,
    fun id key position coords next h hlocate => edit_move_of_move hcheck h hlocate, ?_⟩
  rintro _ replacement former next h hformer rfl
  exact edit_update_of_update hcheck h hformer

/-- A question about the pets' age comes and goes, the names are asked for at the end and then in
their place again, and the vet is replaced for a while. -/
theorem edit_undone_petForm : petForm.checkDependencies = [] ∧
    (∃ next, petForm.edit (.insert ⟨0, 0, 0⟩ (some 1)
        { Question.blank with id := "age", parent := some "pets" }) = .ok next ∧
      next.edit (.remove "age") = .ok petForm) ∧
    (∃ next, petForm.edit (.move "names" ⟨0, 0, 0⟩ 2) = .ok next ∧
      next.edit (.move "names" ⟨0, 0, 0⟩ 1) = .ok petForm) ∧
    ∃ next, petForm.edit (.update "vet" { Question.blank with id := "doctor" }) = .ok next ∧
      next.edit (.update "vet" { Question.blank with id := "vet" }) = .ok petForm := by
  have hcheck : petForm.checkDependencies = [] := by decide
  obtain ⟨hinsert, hmove, hupdate⟩ := edit_undone hcheck
  obtain ⟨grown, hgrown⟩ : ∃ next, petForm.edit (.insert ⟨0, 0, 0⟩ (some 1)
      { Question.blank with id := "age", parent := some "pets" }) = .ok next := ⟨_, rfl⟩
  obtain ⟨moved, hmoved⟩ : ∃ next, petForm.edit (.move "names" ⟨0, 0, 0⟩ 2) = .ok next := ⟨_, rfl⟩
  obtain ⟨updated, hupdated⟩ : ∃ next, petForm.edit
      (.update "vet" { Question.blank with id := "doctor" }) = .ok next := ⟨_, rfl⟩
  exact ⟨hcheck, ⟨grown, hgrown, hinsert _ _ _ _ hgrown⟩,
    ⟨moved, hmoved, hmove _ _ _ ⟨0, 0, 0, 1⟩ _ hmoved rfl⟩, updated, hupdated,
    hupdate _ _ _ _ hupdated (by simp [petForm, sequence_eq_flatMap]) rfl⟩

end Document

end Questionnaire
