import Mathlib.Data.List.Basic
import Mathlib.Order.Basic
import Questionnaire.Document.Edit
import Questionnaire.Proofs.Document

/-! # Questions in document order

A document lists its questions by increasing coordinates (`Document.pairwise_questions`). A place in
the document, taken or not, therefore cuts the list in two (`Document.Cut`), and an edit of one
group shows in the list at that cut alone: an inserted question stands between the two parts
(`Document.exists_cut_insert`), and a question that is taken out or replaced was the first of the
second part (`Document.exists_cut_at`). -/

namespace Questionnaire

/-! ### The order of coordinates -/

/-- The coordinates of a question, outermost first. -/
def QuestionCoords.coordinates (coords : QuestionCoords) : List Nat :=
  coords.groupKey.coordinates ++ [coords.questionIndex]

/-- Whether coordinates come before others in document order. -/
def QuestionCoords.Before (a b : QuestionCoords) : Prop := a.coordinates < b.coordinates

instance (a b : QuestionCoords) : Decidable (a.Before b) :=
  inferInstanceAs (Decidable (a.coordinates < b.coordinates))

theorem GroupKey.coordinates_lt_iff {a b : GroupKey} : a.coordinates < b.coordinates ↔
    a.pageIndex < b.pageIndex ∨ a.pageIndex = b.pageIndex ∧
      (a.sectionIndex < b.sectionIndex ∨ a.sectionIndex = b.sectionIndex ∧
        a.groupIndex < b.groupIndex) := by
  simp [coordinates, List.cons_lt_cons_iff]

theorem QuestionCoords.before_iff {a b : QuestionCoords} :
    a.Before b ↔ a.groupKey.coordinates < b.groupKey.coordinates ∨
      a.groupKey = b.groupKey ∧ a.questionIndex < b.questionIndex := by
  have hgroup : a.groupKey = b.groupKey ↔ a.pageIndex = b.pageIndex ∧
      a.sectionIndex = b.sectionIndex ∧ a.groupIndex = b.groupIndex := by
    simp [QuestionCoords.groupKey]
  rw [GroupKey.coordinates_lt_iff, hgroup]
  simp only [Before, coordinates, GroupKey.coordinates, List.cons_append, List.nil_append,
    List.cons_lt_cons_iff, List.not_lt_nil, and_false, or_false]
  simp only [QuestionCoords.groupKey]
  omega

@[simp] theorem GroupKey.groupKey_question (key : GroupKey) (position : Nat) :
    (key.question position).groupKey = key := rfl

@[simp] theorem GroupKey.questionIndex_question (key : GroupKey) (position : Nat) :
    (key.question position).questionIndex = position := rfl

@[simp] theorem QuestionCoords.question_groupKey (coords : QuestionCoords) :
    coords.groupKey.question coords.questionIndex = coords := rfl

theorem QuestionCoords.ext_groupKey {a b : QuestionCoords} (hgroup : a.groupKey = b.groupKey)
    (hindex : a.questionIndex = b.questionIndex) : a = b := by
  rw [← a.question_groupKey, ← b.question_groupKey, hgroup, hindex]

theorem QuestionCoords.Before.asymm {a b : QuestionCoords} (h : a.Before b) : ¬ b.Before a :=
  List.lt_asymm h

/-! ### Lists by position -/

theorem pairwise_zipIdx {α : Type} (entries : List α) :
    entries.zipIdx.Pairwise fun a b => a.2 < b.2 := by
  have hrange : (entries.zipIdx.map (·.2)).Pairwise (· < ·) := by
    rw [List.zipIdx_map_snd]
    exact List.pairwise_lt_range'
  exact List.pairwise_map.1 hrange

/-- What is listed for one position changes with what stands there, and nothing else does. -/
theorem exists_flatMap_zipIdx_modify {α β : Type} {entries : List α} {i : Nat} {entry : α}
    (hentry : entries[i]? = some entry) (list : α × Nat → List β) :
    ∃ before after, ∀ change : α → α, (entries.modify i change).zipIdx.flatMap list =
      before ++ (list (change entry, i) ++ after) := by
  obtain ⟨hlt, rfl⟩ := List.getElem?_eq_some_iff.1 hentry
  refine ⟨(entries.take i).zipIdx.flatMap list,
    ((entries.drop (i + 1)).zipIdx (i + 1)).flatMap list, fun change => ?_⟩
  have hlength : 0 + (entries.take i).length = i := by
    rw [List.length_take]
    omega
  rw [List.modify_eq_take_cons_drop hlt, List.zipIdx_append, List.flatMap_append, hlength,
    List.zipIdx_cons, List.flatMap_cons]

theorem insertIdx_eq_append {α : Type} (entries : List α) {i : Nat} (hi : i ≤ entries.length)
    (entry : α) : entries.insertIdx i entry = entries.take i ++ entry :: entries.drop i := by
  induction entries generalizing i with
  | nil =>
      obtain rfl := Nat.le_zero.1 hi
      rfl
  | cons head rest ih =>
      cases i with
      | zero => rfl
      | succ i =>
          rw [List.insertIdx_succ_cons, ih (Nat.le_of_succ_le_succ hi)]
          rfl

namespace Document

variable {document : Document} {key : GroupKey} {group : Group}

/-! ### Increasing coordinates -/

/-- The groups are listed by increasing keys. -/
theorem pairwise_groups (document : Document) :
    document.groups.Pairwise fun a b => a.1.coordinates < b.1.coordinates := by
  unfold groups
  refine List.pairwise_flatMap.2 ⟨fun page _ => List.pairwise_flatMap.2 ⟨fun part _ => ?_, ?_⟩, ?_⟩
  · refine List.pairwise_map.2 ((pairwise_zipIdx part.1.groups).imp fun hlt => ?_)
    rw [GroupKey.coordinates_lt_iff]
    exact .inr ⟨rfl, .inr ⟨rfl, hlt⟩⟩
  · refine (pairwise_zipIdx page.1.sections).imp fun {a b} hlt x hx y hy => ?_
    obtain ⟨_, -, rfl⟩ := List.mem_map.1 hx
    obtain ⟨_, -, rfl⟩ := List.mem_map.1 hy
    rw [GroupKey.coordinates_lt_iff]
    exact .inr ⟨rfl, .inl hlt⟩
  · refine (pairwise_zipIdx document.pages).imp fun {a b} hlt x hx y hy => ?_
    obtain ⟨_, -, hx⟩ := List.mem_flatMap.1 hx
    obtain ⟨_, -, rfl⟩ := List.mem_map.1 hx
    obtain ⟨_, -, hy⟩ := List.mem_flatMap.1 hy
    obtain ⟨_, -, rfl⟩ := List.mem_map.1 hy
    rw [GroupKey.coordinates_lt_iff]
    exact .inl hlt

theorem groupKey_of_mem_questionsAt {entry : QuestionCoords × Question}
    (h : entry ∈ questionsAt key group) : entry.1.groupKey = key :=
  (mem_questionsAt_iff.1 h).1

/-- The questions are listed by increasing coordinates. -/
theorem pairwise_questions (document : Document) :
    document.questions.Pairwise fun a b => a.1.Before b.1 := by
  unfold questions
  refine List.pairwise_flatMap.2 ⟨fun entry _ => ?_, ?_⟩
  · refine List.pairwise_map.2 ((pairwise_zipIdx entry.2.questions).imp fun hlt => ?_)
    exact QuestionCoords.before_iff.2 (.inr ⟨rfl, hlt⟩)
  · refine (pairwise_groups document).imp fun {a b} hlt x hx y hy => ?_
    rw [QuestionCoords.before_iff, groupKey_of_mem_questionsAt hx, groupKey_of_mem_questionsAt hy]
    exact .inl hlt

/-! ### Changing one group -/

theorem modifyGroup_id (document : Document) (key : GroupKey) :
    (document.modifyGroup key fun group => group) = document := by
  have hid {α : Type} (entries : List α) (i : Nat) :
      (entries.modify i fun entry => entry) = entries := List.modify_id i entries
  simp only [modifyGroup, hid]

theorem groups_eq (document : Document) :
    document.groups = document.pages.zipIdx.flatMap fun page =>
      page.1.sections.zipIdx.flatMap fun part =>
        part.1.groups.zipIdx.map fun group => (⟨page.2, part.2, group.2⟩, group.1) := rfl

theorem questions_eq (document : Document) :
    document.questions = document.groups.flatMap fun entry => questionsAt entry.1 entry.2 := rfl

/-- A change of one group changes its own entry in the list of groups. -/
theorem exists_groups_modifyGroup (hgroup : document.group? key = some group) :
    ∃ before after, ∀ change : Group → Group,
      (document.modifyGroup key change).groups = before ++ (key, change group) :: after := by
  obtain ⟨page, hpage, hgroup⟩ := Option.bind_eq_some_iff.1 hgroup
  obtain ⟨part, hpart, hgroup⟩ := Option.bind_eq_some_iff.1 hgroup
  obtain ⟨beforePage, afterPage, hpages⟩ := exists_flatMap_zipIdx_modify hpage
    fun page => page.1.sections.zipIdx.flatMap fun part =>
      part.1.groups.zipIdx.map fun group => ((⟨page.2, part.2, group.2⟩ : GroupKey), group.1)
  obtain ⟨beforePart, afterPart, hparts⟩ := exists_flatMap_zipIdx_modify hpart
    fun part => part.1.groups.zipIdx.map fun group =>
      ((⟨key.pageIndex, part.2, group.2⟩ : GroupKey), group.1)
  obtain ⟨beforeGroup, afterGroup, hgroups⟩ := exists_flatMap_zipIdx_modify hgroup
    fun group => [((⟨key.pageIndex, key.sectionIndex, group.2⟩ : GroupKey), group.1)]
  refine ⟨beforePage ++ (beforePart ++ beforeGroup), afterGroup ++ (afterPart ++ afterPage),
    fun change => ?_⟩
  rw [groups_eq]
  simp only [modifyGroup, hpages, hparts]
  rw [List.map_eq_flatMap]
  simp only [hgroups, List.append_assoc, List.cons_append, List.nil_append]

theorem map_snd_questionsAt (key : GroupKey) (group : Group) :
    (questionsAt key group).map (·.2) = group.questions := by
  rw [questionsAt, List.map_map]
  exact List.zipIdx_map_fst 0 group.questions

/-- The questions of a document, in document order. -/
def sequence (document : Document) : List Question := document.questions.map (·.2)

/-- A change of one group's questions changes their part of the questions. -/
theorem exists_questions_modifyQuestions (hgroup : document.group? key = some group) :
    ∃ before after : List (QuestionCoords × Question),
      (∀ entry ∈ before, entry.1.groupKey.coordinates < key.coordinates) ∧
      (∀ entry ∈ after, key.coordinates < entry.1.groupKey.coordinates) ∧
      document.questions = before ++ (questionsAt key group ++ after) ∧
      ∀ change, (document.modifyQuestions key change).sequence =
        before.map (·.2) ++ (change group.questions ++ after.map (·.2)) := by
  obtain ⟨before, after, hgroups⟩ := exists_groups_modifyGroup hgroup
  -- the groups around the changed one do not depend on the change
  have hsame : document.groups = before ++ (key, group) :: after := by
    have := hgroups fun group => group
    rwa [modifyGroup_id] at this
  have hsorted := pairwise_groups document
  rw [hsame, List.pairwise_append, List.pairwise_cons] at hsorted
  obtain ⟨-, ⟨hafter, -⟩, hbefore⟩ := hsorted
  refine ⟨before.flatMap fun entry => questionsAt entry.1 entry.2,
    after.flatMap fun entry => questionsAt entry.1 entry.2, fun entry hentry => ?_,
    fun entry hentry => ?_, ?_, fun change => ?_⟩
  · obtain ⟨other, hother, hentry⟩ := List.mem_flatMap.1 hentry
    rw [groupKey_of_mem_questionsAt hentry]
    exact hbefore other hother _ List.mem_cons_self
  · obtain ⟨other, hother, hentry⟩ := List.mem_flatMap.1 hentry
    rw [groupKey_of_mem_questionsAt hentry]
    exact hafter other hother
  · rw [questions_eq, hsame, List.flatMap_append, List.flatMap_cons]
  · rw [sequence, questions_eq, modifyQuestions, hgroups, List.flatMap_append, List.flatMap_cons,
      List.map_append, List.map_append, map_snd_questionsAt]

/-! ### Cuts -/

/-- The questions before a place in document order and the others. -/
structure Cut (document : Document) (place : QuestionCoords)
    (earlier later : List (QuestionCoords × Question)) : Prop where
  questions : document.questions = earlier ++ later
  before : ∀ entry ∈ earlier, entry.1.Before place
  notBefore : ∀ entry ∈ later, ¬ entry.1.Before place

theorem Cut.sequence {place : QuestionCoords} {earlier later : List (QuestionCoords × Question)}
    (h : document.Cut place earlier later) :
    document.sequence = earlier.map (·.2) ++ later.map (·.2) := by
  rw [Document.sequence, h.questions, List.map_append]

theorem Cut.mem_earlier_iff {place : QuestionCoords}
    {earlier later : List (QuestionCoords × Question)} (h : document.Cut place earlier later)
    {entry : QuestionCoords × Question} :
    entry ∈ earlier ↔ entry ∈ document.questions ∧ entry.1.Before place := by
  rw [h.questions, List.mem_append]
  constructor
  · exact fun hentry => ⟨.inl hentry, h.before entry hentry⟩
  · rintro ⟨hentry | hentry, hbefore⟩
    · exact hentry
    · exact absurd hbefore (h.notBefore entry hentry)

theorem before_question_iff {entry : QuestionCoords × Question}
    (hentry : entry ∈ questionsAt key group) {position : Nat} :
    entry.1.Before (key.question position) ↔ entry.1.questionIndex < position := by
  have hkey := groupKey_of_mem_questionsAt hentry
  rw [QuestionCoords.before_iff, hkey, GroupKey.groupKey_question, GroupKey.questionIndex_question]
  constructor
  · rintro (hlt | ⟨-, hlt⟩)
    · exact absurd hlt (List.lt_irrefl _)
    · exact hlt
  · exact fun hlt => .inr ⟨rfl, hlt⟩

/-- A position of a group cuts the questions, before and after the group's own cut there. -/
theorem exists_cut (hgroup : document.group? key = some group) (position : Nat) :
    ∃ before after : List (QuestionCoords × Question),
      document.Cut (key.question position) (before ++ (questionsAt key group).take position)
        ((questionsAt key group).drop position ++ after) ∧
      ∀ change, (document.modifyQuestions key change).sequence =
        before.map (·.2) ++ (change group.questions ++ after.map (·.2)) := by
  obtain ⟨before, after, hbefore, hafter, hquestions, hchange⟩ :=
    exists_questions_modifyQuestions hgroup
  refine ⟨before, after, ⟨?_, fun entry hentry => ?_, fun entry hentry => ?_⟩, hchange⟩
  · rw [hquestions, List.append_assoc, ← List.append_assoc (List.take _ _), List.take_append_drop]
  · rcases List.mem_append.1 hentry with hentry | hentry
    · exact QuestionCoords.before_iff.2 (.inl (hbefore entry hentry))
    · rw [before_question_iff (List.mem_of_mem_take hentry)]
      obtain ⟨i, hi, hget⟩ := List.mem_take_iff_getElem.1 hentry
      simp only [questionsAt, List.getElem_map, List.getElem_zipIdx] at hget
      rw [← hget, GroupKey.questionIndex_question]
      omega
  · rcases List.mem_append.1 hentry with hentry | hentry
    · rw [before_question_iff (List.mem_of_mem_drop hentry)]
      obtain ⟨i, hi, hget⟩ := List.mem_drop_iff_getElem.1 hentry
      simp only [questionsAt, List.getElem_map, List.getElem_zipIdx] at hget
      rw [← hget, GroupKey.questionIndex_question]
      omega
    · refine QuestionCoords.Before.asymm (QuestionCoords.before_iff.2 (.inl ?_))
      exact hafter entry hentry

/-- An inserted question stands between those before its place and the others. -/
theorem exists_cut_insert (hgroup : document.group? key = some group) {position : Nat}
    (hposition : position ≤ group.questions.length) :
    ∃ earlier later, document.Cut (key.question position) earlier later ∧
      ∀ question, (document.modifyQuestions key (·.insertIdx position question)).sequence =
        earlier.map (·.2) ++ question :: later.map (·.2) := by
  obtain ⟨before, after, hcut, hchange⟩ := exists_cut hgroup position
  refine ⟨_, _, hcut, fun question => ?_⟩
  rw [hchange, insertIdx_eq_append _ hposition, List.map_append, List.map_append, List.map_take,
    List.map_drop, map_snd_questionsAt]
  simp only [List.append_assoc, List.cons_append]

/-- A question is the first of those that are not before it; taking it out and replacing it leave
the others as they are. -/
theorem exists_cut_at {coords : QuestionCoords} {question : Question}
    (hquestion : document.question? coords = some question) :
    ∃ earlier later, document.Cut coords earlier ((coords, question) :: later) ∧
      (document.takeOut coords).sequence = earlier.map (·.2) ++ later.map (·.2) ∧
      ∀ other, (document.modifyQuestions coords.groupKey
          (·.set coords.questionIndex other)).sequence =
        earlier.map (·.2) ++ other :: later.map (·.2) := by
  obtain ⟨group, hgroup, hget⟩ := question?_eq_some_iff.1 hquestion
  obtain ⟨before, after, hcut, hchange⟩ := exists_cut hgroup coords.questionIndex
  obtain ⟨hlt, rfl⟩ := List.getElem?_eq_some_iff.1 hget
  have hlength : coords.questionIndex < (questionsAt coords.groupKey group).length := by
    rwa [questionsAt, List.length_map, List.length_zipIdx]
  have hdrop : (questionsAt coords.groupKey group).drop coords.questionIndex =
      (coords, group.questions[coords.questionIndex]) ::
        (questionsAt coords.groupKey group).drop (coords.questionIndex + 1) := by
    rw [List.drop_eq_getElem_cons hlength]
    congr 1
    simp [questionsAt]
  rw [hdrop, List.cons_append, QuestionCoords.question_groupKey] at hcut
  refine ⟨_, _, hcut, ?_, fun other => ?_⟩
  · rw [takeOut, hchange, List.eraseIdx_eq_take_drop_succ, List.map_append, List.map_append,
      List.map_take, List.map_drop, map_snd_questionsAt]
    simp only [List.append_assoc]
  · rw [hchange, List.set_eq_take_cons_drop other hlt, List.map_append, List.map_append,
      List.map_take, List.map_drop, map_snd_questionsAt]
    simp only [List.append_assoc, List.cons_append]

/-- The questions of a document are those of its groups. -/
theorem sequence_eq_flatMap (document : Document) :
    document.sequence = document.pages.flatMap fun page => page.sections.flatMap fun part =>
      part.groups.flatMap (·.questions) := by
  have hzip {α β : Type} (entries : List α) (list : α → List β) :
      (entries.zipIdx.flatMap fun entry => list entry.1) = entries.flatMap list := by
    have := List.flatMap_map (·.1) list entries.zipIdx
    rwa [List.zipIdx_map_fst, eq_comm] at this
  simp only [sequence, questions, groups, List.flatMap_assoc, List.map_flatMap, List.flatMap_map,
    map_snd_questionsAt, hzip, fun page : Page =>
      hzip page.sections fun part => part.groups.flatMap (·.questions)]
  exact hzip document.pages fun page => page.sections.flatMap fun part =>
    part.groups.flatMap (·.questions)

/-- A change of every question changes the questions one by one. -/
theorem sequence_mapQuestions (document : Document) (change : Question → Question) :
    (document.mapQuestions change).sequence = document.sequence.map change := by
  rw [sequence_eq_flatMap, sequence_eq_flatMap]
  simp only [mapQuestions, List.flatMap_map, List.map_flatMap]

end Document

end Questionnaire
