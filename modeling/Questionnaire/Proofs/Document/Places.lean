import Questionnaire.Proofs.Document.Lookup

/-! # Places of questions after an edit

A question that is inserted moves those behind it in its group one place on, and one that is taken
out lets them move up (`QuestionCoords.afterInsertion`, `QuestionCoords.afterRemoval`). So an edit
says of every place where the question there stands afterwards (`Document.placeAfter`), and that is
where it is found by its identifier (`Document.locate?_of_edit`). -/

namespace Questionnaire

/-! ### Places in a group -/

/-- Where the question at some coordinates stands after another one has been inserted at a place. -/
def QuestionCoords.afterInsertion (place coords : QuestionCoords) : QuestionCoords :=
  if coords.groupKey = place.groupKey ∧ place.questionIndex ≤ coords.questionIndex then
    coords.groupKey.question (coords.questionIndex + 1)
  else coords

/-- Where the question at some coordinates stands after the one at another place has been taken
out. -/
def QuestionCoords.afterRemoval (place coords : QuestionCoords) : QuestionCoords :=
  if coords.groupKey = place.groupKey ∧ place.questionIndex < coords.questionIndex then
    coords.groupKey.question (coords.questionIndex - 1)
  else coords

namespace Document

variable {document next : Document} {key : GroupKey} {coords place : QuestionCoords}
  {question : Question} {id : QuestionId}

/-! ### Looking up in a changed document -/

/-- A lookup in a list of which one entry has been changed. -/
theorem bind_getElem?_modify {α β : Type} (entries : List α) (i j : Nat) (change : α → α)
    (read : α → Option β) : (entries.modify i change)[j]?.bind read =
      entries[j]?.bind fun entry => read (if j = i then change entry else entry) := by
  rw [List.getElem?_modify]
  cases entries[j]? with
  | none => rfl
  | some entry => by_cases h : j = i <;> simp [h, eq_comm (a := i)]

theorem group?_modifyGroup (document : Document) (key other : GroupKey) (change : Group → Group) :
    (document.modifyGroup key change).group? other =
      if other = key then (document.group? other).map change else document.group? other := by
  obtain ⟨p, s, g⟩ := key
  obtain ⟨p', s', g'⟩ := other
  simp only [group?, modifyGroup, Option.bind_eq_bind, bind_getElem?_modify, GroupKey.mk.injEq]
  by_cases hp : p' = p
  · by_cases hs : s' = s
    · by_cases hg : g' = g
      · simp only [hp, hs, hg, and_self, if_true, bind_getElem?_modify, Option.map_bind,
          Function.comp_def]
        simp only [List.getElem?_modify_eq, Option.map_eq_map]
      · have hne : g ≠ g' := fun h => hg h.symm
        simp only [hp, hs, hg, and_false, if_true, if_false, bind_getElem?_modify]
        simp only [List.getElem?_modify_ne _ _ hne]
    · simp only [hp, hs, if_true, if_false, and_false, false_and, bind_getElem?_modify]
  · simp only [hp, if_false, false_and]

/-- What stands at a place of a group whose questions have been changed. -/
theorem question?_modifyQuestions_eq_some (hquestion : document.question? coords = some question)
    {change : List Question → List Question} (position : Nat) {found : Question}
    (h : ∀ questions : List Question, questions[coords.questionIndex]? = some question →
      (change questions)[position]? = some found) :
    (document.modifyQuestions coords.groupKey change).question?
      (coords.groupKey.question position) = some found := by
  obtain ⟨group, hgroup, hget⟩ := question?_eq_some_iff.1 hquestion
  rw [question?_eq_some_iff, GroupKey.groupKey_question, modifyQuestions, group?_modifyGroup,
    if_pos rfl, hgroup]
  exact ⟨_, rfl, h group.questions hget⟩

theorem question?_modifyQuestions_of_ne (hgroup : coords.groupKey ≠ key)
    (change : List Question → List Question) :
    (document.modifyQuestions key change).question? coords = document.question? coords := by
  simp only [question?, modifyQuestions, group?_modifyGroup, if_neg hgroup]

theorem group?_mapQuestions (document : Document) (change : Question → Question)
    (key : GroupKey) :
    (document.mapQuestions change).group? key =
      (document.group? key).map fun group =>
        { group with questions := group.questions.map change } := by
  simp only [group?, mapQuestions, List.getElem?_map, Option.bind_eq_bind, Option.bind_map,
    Option.map_bind, Function.comp_def]

theorem question?_mapQuestions (document : Document) (change : Question → Question)
    (coords : QuestionCoords) :
    (document.mapQuestions change).question? coords = (document.question? coords).map change := by
  simp only [question?, group?_mapQuestions, Option.bind_eq_bind, Option.bind_map, Option.map_bind,
    Function.comp_def, List.getElem?_map]

/-! ### Each kind of edit -/

theorem question?_withInserted (hquestion : document.question? coords = some question)
    {position : Nat} (inserted : Question) :
    (document.withInserted key position inserted).question?
      ((key.question position).afterInsertion coords) = some question := by
  unfold withInserted QuestionCoords.afterInsertion
  by_cases hgroup : coords.groupKey = key
  · subst hgroup
    by_cases hle : position ≤ coords.questionIndex
    · rw [if_pos ⟨rfl, hle⟩]
      refine question?_modifyQuestions_eq_some hquestion _ fun questions hget => ?_
      rw [List.getElem?_insertIdx_of_gt (Nat.lt_succ_of_le hle)]
      exact hget
    · rw [if_neg fun h => hle h.2]
      refine question?_modifyQuestions_eq_some hquestion coords.questionIndex
        fun questions hget => ?_
      rw [List.getElem?_insertIdx_of_lt (Nat.lt_of_not_le hle)]
      exact hget
  · rw [if_neg fun h => hgroup h.1, question?_modifyQuestions_of_ne hgroup]
    exact hquestion

theorem question?_withInserted_self {group : Group} (hgroup : document.group? key = some group)
    {position : Nat} (hposition : position ≤ group.questions.length) :
    (document.withInserted key position question).question? (key.question position) =
      some question := by
  rw [question?_eq_some_iff, withInserted, modifyQuestions, GroupKey.groupKey_question,
    group?_modifyGroup, if_pos rfl, hgroup]
  refine ⟨_, rfl, ?_⟩
  rw [GroupKey.questionIndex_question, List.getElem?_insertIdx_self, if_pos hposition]

theorem question?_takeOut (hquestion : document.question? coords = some question)
    (hne : coords ≠ place) :
    (document.takeOut place).question? (place.afterRemoval coords) = some question := by
  unfold takeOut QuestionCoords.afterRemoval
  by_cases hgroup : coords.groupKey = place.groupKey
  · rw [← hgroup]
    have hindex : coords.questionIndex ≠ place.questionIndex := fun h =>
      hne (QuestionCoords.ext_groupKey hgroup h)
    by_cases hlt : place.questionIndex < coords.questionIndex
    · rw [if_pos ⟨rfl, hlt⟩]
      refine question?_modifyQuestions_eq_some hquestion _ fun questions hget => ?_
      have hle : place.questionIndex ≤ coords.questionIndex - 1 := by omega
      have hsucc : coords.questionIndex - 1 + 1 = coords.questionIndex := by omega
      rw [List.getElem?_eraseIdx_of_ge hle, hsucc]
      exact hget
    · rw [if_neg fun h => hlt h.2]
      refine question?_modifyQuestions_eq_some hquestion coords.questionIndex
        fun questions hget => ?_
      rw [List.getElem?_eraseIdx_of_lt (by omega)]
      exact hget
  · rw [if_neg fun h => hgroup h.1, question?_modifyQuestions_of_ne hgroup]
    exact hquestion

theorem question?_withReplaced (hquestion : document.question? coords = some question)
    (replacement : Question) : (document.withReplaced place replacement).question? coords =
      some (if coords = place then replacement else question) := by
  unfold withReplaced
  by_cases hgroup : coords.groupKey = place.groupKey
  · rw [← hgroup]
    refine question?_modifyQuestions_eq_some hquestion coords.questionIndex
      fun questions hget => ?_
    by_cases hindex : coords.questionIndex = place.questionIndex
    · obtain ⟨hlt, -⟩ := List.getElem?_eq_some_iff.1 hget
      have hsame := QuestionCoords.ext_groupKey hgroup hindex
      rw [if_pos hsame, ← hindex, List.getElem?_set_self hlt]
    · rw [if_neg fun h => hindex (congrArg _ h), List.getElem?_set_ne (Ne.symm hindex)]
      exact hget
  · rw [question?_modifyQuestions_of_ne hgroup, if_neg fun h => hgroup (congrArg _ h)]
    exact hquestion

theorem questions_setRepeatable {repeatable : Bool}
    (h : document.setRepeatable key repeatable = .ok next) :
    next.questions = document.questions := by
  obtain ⟨group, hgroup, rfl⟩ := setRepeatable_eq_ok_iff.1 h
  obtain ⟨before, after, hgroups⟩ := exists_groups_modifyGroup hgroup
  have hsame := hgroups fun group => group
  rw [modifyGroup_id] at hsame
  simp only [questions, hgroups, hsame, List.flatMap_append, List.flatMap_cons]
  rfl

/-! ### Where questions are found -/

/-- Where an edit of the document puts the question at some coordinates. -/
def placeAfter (document : Document) : Edit → QuestionCoords → QuestionCoords
  -- without a position a question is inserted behind all others
  | .insert key position _, coords =>
      position.elim coords fun position => (key.question position).afterInsertion coords
  | .remove id, coords => (document.locate? id).elim coords (·.afterRemoval coords)
  | .move id key position, coords =>
      if document.locate? id = some coords then key.question position
      else (key.question position).afterInsertion
        ((document.locate? id).elim coords (·.afterRemoval coords))
  | .update _ _, coords => coords
  | .setRepeatable _ _, coords => coords

/-- In a consistent document a question is found where it stands. -/
theorem locate?_of_question? (hcheck : document.checkDependencies = [])
    (hquestion : document.question? coords = some question) :
    document.locate? question.id = some coords :=
  locate?_of_nodup (checkDependencies_eq_nil_iff.1 hcheck).ids hquestion

theorem placeAfter_insert {group : Group} (hgroup : document.group? key = some group)
    (position : Option Nat) (inserted : Question)
    (hquestion : document.question? coords = some question) :
    document.placeAfter (.insert key position inserted) coords =
      (key.question (position.getD group.questions.length)).afterInsertion coords := by
  cases position with
  | some position => rfl
  | none =>
      -- no question of the group stands behind the last one
      refine (if_neg ?_).symm
      rintro ⟨hkey, hle⟩
      obtain ⟨other, hother, hget⟩ := question?_eq_some_iff.1 hquestion
      rw [hkey, GroupKey.groupKey_question, hgroup, Option.some.injEq] at hother
      subst hother
      obtain ⟨hlt, -⟩ := List.getElem?_eq_some_iff.1 hget
      exact absurd hlt (Nat.not_lt.2 hle)

/-- A question that is not removed stands where the edit puts it. -/
theorem exists_question?_of_edit {edit : Edit} (h : document.edit edit = .ok next)
    (hlocate : document.locate? id = some coords) (hkept : edit ≠ .remove id) :
    ∃ kept, next.question? (document.placeAfter edit coords) = some kept ∧ kept.id = id := by
  obtain ⟨question, hquestion, hid⟩ := exists_question?_of_locate? hlocate
  cases edit with
  | update other replacement =>
      obtain ⟨place, hplace, rfl, -⟩ := updateQuestion_eq_ok_iff.1 h
      refine ⟨_, question?_withReplaced hquestion _, ?_⟩
      split
      · rename_i hcoords
        obtain ⟨old, hold, holdid⟩ := exists_question?_of_locate? hplace
        rw [← hcoords, hquestion, Option.some.injEq] at hold
        rw [← holdid, ← hold, hid]
      · exact hid
  | insert key position inserted =>
      obtain ⟨group, hgroup, -, rfl, -⟩ := place_eq_ok_iff.1 h
      rw [placeAfter_insert hgroup position inserted hquestion]
      exact ⟨question, question?_withInserted hquestion inserted, hid⟩
  | remove other =>
      obtain ⟨place, hplace, rfl, -⟩ := removeQuestion_eq_ok_iff.1 h
      have hne : coords ≠ place := by
        rintro rfl
        obtain ⟨old, hold, holdid⟩ := exists_question?_of_locate? hplace
        rw [hquestion, Option.some.injEq] at hold
        rw [← holdid, ← hold, hid] at hkept
        exact hkept rfl
      refine ⟨unlink other question, ?_, (id_unlink other question).trans hid⟩
      simp only [placeAfter, hplace, Option.elim_some]
      rw [question?_mapQuestions, question?_takeOut hquestion hne, Option.map_some]
  | move other key position =>
      obtain ⟨place, moved, group, hplace, hmoved, -, hgroup, hposition, rfl, -⟩ :=
        moveQuestion_eq_ok_iff.1 h
      simp only [placeAfter, hplace, Option.some.injEq, Option.elim_some]
      by_cases hcoords : place = coords
      · subst hcoords
        rw [hquestion, Option.some.injEq] at hmoved
        subst hmoved
        rw [if_pos rfl]
        exact ⟨question, question?_withInserted_self hgroup hposition, hid⟩
      · rw [if_neg hcoords]
        have htaken := question?_takeOut hquestion (Ne.symm hcoords)
        exact ⟨question, question?_withInserted htaken moved, hid⟩
  | setRepeatable key repeatable =>
      have hsame := questions_setRepeatable h
      refine ⟨question, ?_, hid⟩
      rw [← mem_questions_iff, hsame]
      exact mem_questions_iff.2 hquestion

/-- A question that is not removed is found where the edit puts it. -/
theorem locate?_of_edit {edit : Edit} (h : document.edit edit = .ok next)
    (hlocate : document.locate? id = some coords) (hkept : edit ≠ .remove id) :
    next.locate? id = some (document.placeAfter edit coords) := by
  obtain ⟨kept, hfound, rfl⟩ := exists_question?_of_edit h hlocate hkept
  cases edit with
  | setRepeatable key repeatable =>
      -- such an edit is not followed by a check
      rw [locate?, questions_setRepeatable h]
      exact hlocate
  | update | insert | remove | move =>
      exact locate?_of_question? (checkDependencies_of_edit_question h (by simp)) hfound

end Document

end Questionnaire
