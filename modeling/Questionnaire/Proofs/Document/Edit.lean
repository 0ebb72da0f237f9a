import Questionnaire.Proofs.Document.Dependency
import Questionnaire.Proofs.Outcome

/-! # Edits of consistent documents

Every edit of questions ends in a check of the whole edited document. On a consistent document the
outcome of that check is a matter of the edited question alone: `Document.Admits` says, edit by
edit, what is asked of its identifier, its place, its parent and its dependents, and exactly these
edits succeed, leaving a consistent document (`Document.edit_exact`). -/

namespace Questionnaire

namespace Document

variable {document next : Document} {id : QuestionId} {coords : QuestionCoords}
  {question : Question} {key : GroupKey}

/-! ### What an edit makes -/

theorem ensureConsistent_eq_ok_iff :
    document.ensureConsistent = .ok next ↔ next = document ∧ document.checkDependencies = [] := by
  unfold ensureConsistent
  split
  · rename_i hcheck
    simp [hcheck, eq_comm]
  · rename_i hcheck
    simp [hcheck]

theorem mem_checkDependencies_of_ensureConsistent_eq_error {issue : DependencyIssue}
    (h : document.ensureConsistent = .error (.dependency issue)) :
    issue ∈ document.checkDependencies := by
  unfold ensureConsistent at h
  split at h
  · cases h
  · rename_i hcheck
    obtain rfl := EditError.dependency.inj (Except.error.inj h)
    rw [hcheck]
    exact List.mem_cons_self

theorem find_eq_ok_iff : document.find id = .ok coords ↔ document.locate? id = some coords := by
  unfold find
  split
  · rename_i hlocate
    rw [hlocate, Except.ok.injEq, Option.some.injEq]
  · rename_i hlocate
    simp [hlocate]

theorem findGroup_eq_ok_iff {group : Group} :
    document.findGroup key = .ok group ↔ document.group? key = some group := by
  unfold findGroup
  split
  · rename_i hgroup
    rw [hgroup, Except.ok.injEq, Option.some.injEq]
  · rename_i hgroup
    simp [hgroup]

/-- An identifier is located at a question that has it. -/
theorem exists_question?_of_locate? (h : document.locate? id = some coords) :
    ∃ question, document.question? coords = some question ∧ question.id = id := by
  obtain ⟨entry, hentry, rfl⟩ := Option.map_eq_some_iff.1 h
  refine ⟨entry.2, mem_questions_iff.1 (List.mem_of_find?_eq_some hentry), ?_⟩
  have hid := List.find?_some hentry
  exact beq_iff_eq.1 hid

/-- The document with a question inserted at a position of a group. -/
def withInserted (document : Document) (key : GroupKey) (position : Nat) (question : Question) :
    Document :=
  document.modifyQuestions key (·.insertIdx position question)

/-- The document with the question at some coordinates replaced. -/
def withReplaced (document : Document) (coords : QuestionCoords) (question : Question) : Document :=
  document.modifyQuestions coords.groupKey (·.set coords.questionIndex question)

theorem place_eq (document : Document) (key : GroupKey) (position : Option Nat)
    (question : Question) : document.place key position question =
      match document.group? key with
      | none => .error (.unknownGroup key)
      | some group =>
        if group.questions.length < position.getD group.questions.length then
          .error (.outOfBounds key (position.getD group.questions.length) group.questions.length)
        else
          (document.withInserted key (position.getD group.questions.length)
            question).ensureConsistent := by
  unfold place findGroup
  cases document.group? key with
  | none => rfl
  | some group =>
      simp only [bind, Except.bind]
      split <;> rfl

theorem place_eq_ok_iff {position : Option Nat} :
    document.place key position question = .ok next ↔ ∃ group, document.group? key = some group ∧
      position.getD group.questions.length ≤ group.questions.length ∧
      next = document.withInserted key (position.getD group.questions.length) question ∧
      next.checkDependencies = [] := by
  rw [place_eq]
  cases hgroup : document.group? key with
  | none => simp
  | some group =>
      simp only [Option.some.injEq, exists_eq_left']
      split
      · rename_i hlt
        simp only [reduceCtorEq, Nat.not_le.2 hlt, false_and]
      · rename_i hle
        rw [ensureConsistent_eq_ok_iff]
        constructor
        · rintro ⟨rfl, hcheck⟩
          exact ⟨Nat.not_lt.1 hle, rfl, hcheck⟩
        · rintro ⟨-, rfl, hcheck⟩
          exact ⟨rfl, hcheck⟩

theorem exists_group_of_place_eq_error {position : Option Nat} {issue : DependencyIssue}
    (h : document.place key position question = .error (.dependency issue)) :
    ∃ group, document.group? key = some group ∧
      position.getD group.questions.length ≤ group.questions.length ∧
      issue ∈ (document.withInserted key (position.getD group.questions.length)
        question).checkDependencies := by
  rw [place_eq] at h
  split at h
  · cases h
  · rename_i group hgroup
    split at h
    · cases h
    · rename_i hle
      exact ⟨group, hgroup, Nat.not_lt.1 hle, mem_checkDependencies_of_ensureConsistent_eq_error h⟩

theorem updateQuestion_eq_ok_iff :
    document.updateQuestion id question = .ok next ↔ ∃ coords, document.locate? id = some coords ∧
      next = document.withReplaced coords { question with id } ∧ next.checkDependencies = [] := by
  simp only [updateQuestion, bind_eq_ok_iff, find_eq_ok_iff, ensureConsistent_eq_ok_iff]
  refine exists_congr fun coords => and_congr_right fun _ => ?_
  constructor
  · rintro ⟨rfl, hcheck⟩
    exact ⟨rfl, hcheck⟩
  · rintro ⟨rfl, hcheck⟩
    exact ⟨rfl, hcheck⟩

theorem removeQuestion_eq_ok_iff :
    document.removeQuestion id = .ok next ↔ ∃ coords, document.locate? id = some coords ∧
      next = (document.takeOut coords).mapQuestions (unlink id) ∧ next.checkDependencies = [] := by
  simp only [removeQuestion, bind_eq_ok_iff, find_eq_ok_iff, ensureConsistent_eq_ok_iff]
  refine exists_congr fun coords => and_congr_right fun _ => ?_
  constructor
  · rintro ⟨rfl, hcheck⟩
    exact ⟨rfl, hcheck⟩
  · rintro ⟨rfl, hcheck⟩
    exact ⟨rfl, hcheck⟩

/-- A question that is moved is taken out and placed; without one there is nothing to move. -/
theorem moveQuestion_cases (document : Document) (id : QuestionId) (key : GroupKey)
    (position : Nat) :
    document.locate? id = none ∧
        document.moveQuestion id key position = .error (.unknownQuestion id) ∨
      ∃ coords question, document.locate? id = some coords ∧
        document.question? coords = some question ∧ question.id = id ∧
        document.moveQuestion id key position =
          (document.takeOut coords).place key (some position) question := by
  unfold moveQuestion find
  cases hlocate : document.locate? id with
  | none => exact .inl ⟨rfl, rfl⟩
  | some coords =>
      obtain ⟨question, hquestion, hid⟩ := exists_question?_of_locate? hlocate
      refine .inr ⟨coords, question, rfl, hquestion, hid, ?_⟩
      simp only [bind, Except.bind, hquestion]

theorem moveQuestion_eq_ok_iff {position : Nat} :
    document.moveQuestion id key position = .ok next ↔ ∃ coords question group,
      document.locate? id = some coords ∧ document.question? coords = some question ∧
      question.id = id ∧ (document.takeOut coords).group? key = some group ∧
      position ≤ group.questions.length ∧
      next = (document.takeOut coords).withInserted key position question ∧
      next.checkDependencies = [] := by
  rcases moveQuestion_cases document id key position with
    ⟨hlocate, hmove⟩ | ⟨coords, question, hlocate, hquestion, hid, hmove⟩
  · simp [hlocate, hmove]
  · rw [hmove, place_eq_ok_iff]
    simp [hlocate, hquestion, hid]

theorem setRepeatable_eq_ok_iff {repeatable : Bool} :
    document.setRepeatable key repeatable = .ok next ↔ ∃ group,
      document.group? key = some group ∧
        next = document.modifyGroup key fun g => { g with repeatable } := by
  rw [setRepeatable, bind_eq_ok_iff]
  simp only [findGroup_eq_ok_iff, pure_eq_ok_iff]
  exact exists_congr fun group => and_congr_right fun _ => eq_comm

theorem sequence_setRepeatable {group : Group} (hgroup : document.group? key = some group)
    (repeatable : Bool) :
    (document.modifyGroup key fun g => { g with repeatable }).sequence = document.sequence := by
  obtain ⟨before, after, hgroups⟩ := exists_groups_modifyGroup hgroup
  have hsame := hgroups fun group => group
  rw [modifyGroup_id] at hsame
  simp only [sequence, questions, hgroups, hsame, List.flatMap_append, List.flatMap_cons]
  rfl

/-! ### What an edit asks for -/

/-- Whether a question can stand at a place: its parent, if it has one, is a choice question before
the place. -/
def ParentBefore (document : Document) (place : QuestionCoords) (question : Question) : Prop :=
  ∀ parent, question.parent = some parent → ∃ entry ∈ document.questions,
    entry.1.Before place ∧ entry.2.id = parent ∧ entry.2.answerType.canBeParent = true

/-- What an edit of a consistent document asks for. -/
def Admits (document : Document) : Edit → Prop
  | .update id question => ∃ coords, document.locate? id = some coords ∧
      document.ParentBefore coords question ∧
      ((∃ entry ∈ document.questions, entry.2.parent = some id) →
        question.answerType.canBeParent = true)
  | .insert key position question => ∃ group, document.group? key = some group ∧
      position.getD group.questions.length ≤ group.questions.length ∧
      (∀ entry ∈ document.questions, entry.2.id ≠ question.id) ∧
      document.ParentBefore (key.question (position.getD group.questions.length)) question
  | .remove id => ∃ entry ∈ document.questions, entry.2.id = id
  | .move id key position => ∃ coords question group, document.locate? id = some coords ∧
      document.question? coords = some question ∧
      -- places are counted without the moved question
      (document.takeOut coords).group? key = some group ∧ position ≤ group.questions.length ∧
      (∀ parent, question.parent = some parent → ∃ entry ∈ (document.takeOut coords).questions,
        entry.1.Before (key.question position) ∧ entry.2.id = parent) ∧
      ∀ entry ∈ (document.takeOut coords).questions, entry.2.parent = some id →
        ¬ entry.1.Before (key.question position)
  | .setRepeatable key _ => ∃ group, document.group? key = some group

section cut

variable {place : QuestionCoords} {earlier later : List (QuestionCoords × Question)}

theorem Cut.exists_earlier_iff (h : document.Cut place earlier later) {holds : Question → Prop} :
    (∃ found ∈ earlier.map (·.2), holds found) ↔
      ∃ entry ∈ document.questions, entry.1.Before place ∧ holds entry.2 := by
  constructor
  · rintro ⟨_, hfound, hholds⟩
    obtain ⟨entry, hentry, rfl⟩ := List.mem_map.1 hfound
    obtain ⟨hentry, hbefore⟩ := h.mem_earlier_iff.1 hentry
    exact ⟨entry, hentry, hbefore, hholds⟩
  · rintro ⟨entry, hentry, hbefore, hholds⟩
    exact ⟨entry.2, List.mem_map_of_mem (h.mem_earlier_iff.2 ⟨hentry, hbefore⟩), hholds⟩

theorem Cut.parentBefore_iff (h : document.Cut place earlier later) :
    document.ParentBefore place question ↔ question.LinksInto (earlier.map (·.2)) := by
  simp only [ParentBefore, Question.LinksInto, h.exists_earlier_iff]

end cut

theorem exists_sequence_iff {holds : Question → Prop} :
    (∃ question ∈ document.sequence, holds question) ↔
      ∃ entry ∈ document.questions, holds entry.2 := by
  constructor
  · rintro ⟨_, hquestion, hholds⟩
    obtain ⟨entry, hentry, rfl⟩ := List.mem_map.1 hquestion
    exact ⟨entry, hentry, hholds⟩
  · rintro ⟨entry, hentry, hholds⟩
    exact ⟨entry.2, List.mem_map_of_mem hentry, hholds⟩

/-- Every edit but that of a group ends with a check. -/
theorem checkDependencies_of_edit_question {edit : Edit} (h : document.edit edit = .ok next)
    (hedit : ∀ key repeatable, edit ≠ .setRepeatable key repeatable) :
    next.checkDependencies = [] := by
  cases edit with
  | update id question =>
      obtain ⟨_, -, -, hnext⟩ := updateQuestion_eq_ok_iff.1 h
      exact hnext
  | insert key position question =>
      obtain ⟨_, -, -, -, hnext⟩ := place_eq_ok_iff.1 h
      exact hnext
  | remove id =>
      obtain ⟨_, -, -, hnext⟩ := removeQuestion_eq_ok_iff.1 h
      exact hnext
  | move id key position =>
      obtain ⟨_, _, _, -, -, -, -, -, -, hnext⟩ := moveQuestion_eq_ok_iff.1 h
      exact hnext
  | setRepeatable key repeatable => exact absurd rfl (hedit key repeatable)

section consistent

variable (hcheck : document.checkDependencies = [])
include hcheck

theorem checkDependencies_withInserted_iff {group : Group}
    (hgroup : document.group? key = some group) {position : Nat}
    (hposition : position ≤ group.questions.length) :
    (document.withInserted key position question).checkDependencies = [] ↔
      (∀ entry ∈ document.questions, entry.2.id ≠ question.id) ∧
        document.ParentBefore (key.question position) question := by
  obtain ⟨earlier, later, hcut, hsequence⟩ := exists_cut_insert hgroup hposition
  have hlinked := checkDependencies_eq_nil_iff.1 hcheck
  rw [hcut.sequence] at hlinked
  rw [checkDependencies_eq_nil_iff, withInserted, hsequence, linked_insert_iff hlinked,
    ← hcut.sequence, hcut.parentBefore_iff]
  simp only [sequence, List.forall_mem_map]

theorem checkDependencies_withReplaced_iff (hlocate : document.locate? id = some coords) :
    (document.withReplaced coords { question with id }).checkDependencies = [] ↔
      document.ParentBefore coords question ∧
        ((∃ entry ∈ document.questions, entry.2.parent = some id) →
          question.answerType.canBeParent = true) := by
  obtain ⟨old, hold, rfl⟩ := exists_question?_of_locate? hlocate
  obtain ⟨earlier, later, hcut, -, hsequence⟩ := exists_cut_at hold
  have hlinked := checkDependencies_eq_nil_iff.1 hcheck
  rw [hcut.sequence, List.map_cons] at hlinked
  have hdependents : (∃ entry ∈ document.questions, entry.2.parent = some old.id) ↔
      ∃ other ∈ earlier.map (·.2) ++ old :: later.map (·.2), other.parent = some old.id := by
    have hsame : (∃ other ∈ document.sequence, other.parent = some old.id) ↔ _ :=
      exists_sequence_iff
    rw [hcut.sequence, List.map_cons] at hsame
    exact hsame.symm
  rw [checkDependencies_eq_nil_iff, withReplaced, hsequence, hcut.parentBefore_iff, hdependents]
  exact linked_replace_iff hlinked rfl

theorem checkDependencies_takeOut_unlink (hlocate : document.locate? id = some coords) :
    ((document.takeOut coords).mapQuestions (unlink id)).checkDependencies = [] := by
  obtain ⟨old, hold, rfl⟩ := exists_question?_of_locate? hlocate
  obtain ⟨earlier, later, hcut, hsequence, -⟩ := exists_cut_at hold
  have hlinked := checkDependencies_eq_nil_iff.1 hcheck
  rw [hcut.sequence, List.map_cons] at hlinked
  rw [checkDependencies_eq_nil_iff, sequence_mapQuestions, hsequence]
  exact hlinked.unlink

/-- The row of questions with the moved one in its old and in its new place. -/
theorem exists_rows_of_move (hquestion : document.question? coords = some question) {group : Group}
    (hgroup : (document.takeOut coords).group? key = some group) {position : Nat}
    (hposition : position ≤ group.questions.length) :
    ∃ earlier later before after, Linked (earlier ++ question :: later) ∧
      earlier ++ later = before.map (·.2) ++ after.map (·.2) ∧
      (document.takeOut coords).Cut (key.question position) before after ∧
      ((document.takeOut coords).withInserted key position question).sequence =
        before.map (·.2) ++ question :: after.map (·.2) := by
  obtain ⟨earlier, later, hcut, hsequence, -⟩ := exists_cut_at hquestion
  obtain ⟨before, after, hnew, hinserted⟩ := exists_cut_insert hgroup hposition
  have hlinked := checkDependencies_eq_nil_iff.1 hcheck
  rw [hcut.sequence, List.map_cons] at hlinked
  exact ⟨_, _, before, after, hlinked, hsequence.symm.trans hnew.sequence, hnew, hinserted question⟩

theorem checkDependencies_moved_iff (hquestion : document.question? coords = some question)
    {group : Group} (hgroup : (document.takeOut coords).group? key = some group) {position : Nat}
    (hposition : position ≤ group.questions.length) :
    ((document.takeOut coords).withInserted key position question).checkDependencies = [] ↔
      (∀ parent, question.parent = some parent → ∃ entry ∈ (document.takeOut coords).questions,
        entry.1.Before (key.question position) ∧ entry.2.id = parent) ∧
      ∀ entry ∈ (document.takeOut coords).questions, entry.2.parent = some question.id →
        ¬ entry.1.Before (key.question position) := by
  obtain ⟨earlier, later, before, after, hlinked, hrow, hcut, hsequence⟩ :=
    exists_rows_of_move hcheck hquestion hgroup hposition
  rw [checkDependencies_eq_nil_iff, hsequence, linked_move_iff hlinked hrow]
  simp only [hcut.exists_earlier_iff, List.forall_mem_map, hcut.mem_earlier_iff]
  refine and_congr_right fun _ => ?_
  constructor
  · exact fun h entry hentry hparent hbefore => h entry ⟨hentry, hbefore⟩ hparent
  · exact fun h entry hentry hparent => h entry hentry.1 hparent hentry.2

/-- A question that is moved can only come before its parent or after a dependent. -/
theorem eq_parentNotEarlier_of_moveQuestion {position : Nat} {issue : DependencyIssue}
    (h : document.moveQuestion id key position = .error (.dependency issue)) :
    ∃ child parent, issue = .parentNotEarlier child parent := by
  obtain ⟨-, hmove⟩ | ⟨coords, question, -, hquestion, -, hmove⟩ :=
    moveQuestion_cases document id key position
  · rw [hmove] at h
    cases h
  rw [hmove] at h
  obtain ⟨group, hgroup, hposition, hissue⟩ := exists_group_of_place_eq_error h
  rw [Option.getD_some] at hposition hissue
  obtain ⟨earlier, later, before, after, hlinked, hrow, -, hsequence⟩ :=
    exists_rows_of_move hcheck hquestion hgroup hposition
  refine eq_parentNotEarlier_of_mem_checkDependencies hlinked ?_ hissue
  rw [hsequence]
  refine List.perm_middle.trans (List.Perm.trans ?_ List.perm_middle.symm)
  rw [hrow]

/-- An edit of a consistent document leaves a consistent document. -/
theorem checkDependencies_of_edit {edit : Edit} (h : document.edit edit = .ok next) :
    next.checkDependencies = [] := by
  cases edit with
  | setRepeatable key repeatable =>
      obtain ⟨group, hgroup, rfl⟩ := setRepeatable_eq_ok_iff.1 h
      rw [checkDependencies_eq_nil_iff] at hcheck ⊢
      rwa [sequence_setRepeatable hgroup]
  | update | insert | remove | move => exact checkDependencies_of_edit_question h (by simp)

/-- Exactly the admitted edits succeed. -/
theorem exists_edit_eq_ok_iff (edit : Edit) :
    (∃ next, document.edit edit = .ok next) ↔ document.Admits edit := by
  cases edit with
  | update id question =>
      simp only [Document.edit, updateQuestion_eq_ok_iff, Admits]
      constructor
      · rintro ⟨next, coords, hlocate, rfl, hnext⟩
        exact ⟨coords, hlocate, (checkDependencies_withReplaced_iff hcheck hlocate).1 hnext⟩
      · rintro ⟨coords, hlocate, hadmits⟩
        exact ⟨_, coords, hlocate, rfl,
          (checkDependencies_withReplaced_iff hcheck hlocate).2 hadmits⟩
  | insert key position question =>
      simp only [Document.edit, insertQuestion, place_eq_ok_iff, Admits]
      constructor
      · rintro ⟨next, group, hgroup, hposition, rfl, hnext⟩
        exact ⟨group, hgroup, hposition,
          (checkDependencies_withInserted_iff hcheck hgroup hposition).1 hnext⟩
      · rintro ⟨group, hgroup, hposition, hadmits⟩
        exact ⟨_, group, hgroup, hposition, rfl,
          (checkDependencies_withInserted_iff hcheck hgroup hposition).2 hadmits⟩
  | remove id =>
      simp only [Document.edit, removeQuestion_eq_ok_iff, Admits]
      have hlocated : (document.locate? id).isSome = true ↔ _ := isSome_locate?_iff
      rw [Option.isSome_iff_exists, exists_sequence_iff] at hlocated
      rw [← hlocated]
      constructor
      · rintro ⟨next, coords, hlocate, -⟩
        exact ⟨coords, hlocate⟩
      · rintro ⟨coords, hlocate⟩
        exact ⟨_, coords, hlocate, rfl, checkDependencies_takeOut_unlink hcheck hlocate⟩
  | move id key position =>
      simp only [Document.edit, moveQuestion_eq_ok_iff, Admits]
      constructor
      · rintro ⟨next, coords, question, group, hlocate, hquestion, rfl, hgroup, hposition, rfl,
          hnext⟩
        exact ⟨coords, question, group, hlocate, hquestion, hgroup, hposition,
          (checkDependencies_moved_iff hcheck hquestion hgroup hposition).1 hnext⟩
      · rintro ⟨coords, question, group, hlocate, hquestion, hgroup, hposition, hadmits⟩
        obtain ⟨found, hfound, rfl⟩ := exists_question?_of_locate? hlocate
        obtain rfl := Option.some.inj (hquestion.symm.trans hfound)
        exact ⟨_, coords, question, group, hlocate, hquestion, rfl, hgroup, hposition, rfl,
          (checkDependencies_moved_iff hcheck hquestion hgroup hposition).2 hadmits⟩
  | setRepeatable key repeatable =>
      simp only [Document.edit, setRepeatable_eq_ok_iff, Admits]
      constructor
      · rintro ⟨next, group, hgroup, -⟩
        exact ⟨group, hgroup⟩
      · rintro ⟨group, hgroup⟩
        exact ⟨_, group, hgroup, rfl⟩

/-- **The editor accepts exactly the edits that keep a consistent document consistent.** A move that
is refused for the sake of a parent link would put a question before its parent. -/
theorem edit_exact :
    (∀ edit, (∃ next, document.edit edit = .ok next) ↔ document.Admits edit) ∧
      (∀ edit next, document.edit edit = .ok next → next.checkDependencies = []) ∧
      ∀ id key position issue,
        document.edit (.move id key position) = .error (.dependency issue) →
          ∃ child parent, issue = .parentNotEarlier child parent :=
  ⟨exists_edit_eq_ok_iff hcheck, fun _ _ => checkDependencies_of_edit hcheck,
    fun _ _ _ _ => eq_parentNotEarlier_of_moveQuestion hcheck⟩

end consistent

/-- A form that asks for pets and, if there are some, for their names. -/
def petForm : Document :=
  ⟨"pets.pdf", [⟨"Pets", 1, [⟨"", [⟨"", false, [
    { Question.blank with id := "pets", answerType := .radio },
    { Question.blank with id := "names", parent := some "pets", showWhen := some (.one "yes") },
    { Question.blank with id := "vet" }]⟩]⟩]⟩]⟩

/-- The names may be asked for at the end, but the pets may not. -/
theorem edit_exact_petForm : petForm.checkDependencies = [] ∧
    (∃ next, petForm.edit (.move "names" ⟨0, 0, 0⟩ 2) = .ok next ∧ next.checkDependencies = []) ∧
    ¬ ∃ next, petForm.edit (.move "pets" ⟨0, 0, 0⟩ 2) = .ok next := by
  have hcheck : petForm.checkDependencies = [] := by decide
  obtain ⟨hexact, hkept, -⟩ := edit_exact hcheck
  refine ⟨hcheck, ?_, fun hmoved => ?_⟩
  · obtain ⟨next, hnext⟩ := (hexact (.move "names" ⟨0, 0, 0⟩ 2)).2
      ⟨⟨0, 0, 0, 1⟩, _, _, rfl, rfl, rfl, by decide, by decide, by decide⟩
    exact ⟨next, hnext, hkept _ _ hnext⟩
  · obtain ⟨coords, question, group, hlocate, -, -, -, -, hdependents⟩ := (hexact _).1 hmoved
    obtain rfl : ⟨0, 0, 0, 0⟩ = coords := Option.some.inj hlocate
    revert hdependents
    decide

end Document

end Questionnaire
