import Questionnaire.Proofs.Disclosure
import Questionnaire.Proofs.Document.Places

/-! # What the removal of a question frees

To remove a question of a consistent document clears the links that would be left dangling and
touches nothing else. `Document.Unlinked` says so of the document that results: it has the same
frame of pages, sections and groups, and the same questions in the same groups, but for the one
removed and but for the links of its dependents, which are shown from then on whatever is answered
(`Document.remove_unlinks`). It makes no difference whether the dependents are looked up first and
then freed one by one, where they stand without the removed question, or every question is looked at
(`Document.foldl_freeAt_dependents`). -/

namespace Questionnaire

/-! ### One question -/

/-- The question without its link and its condition. -/
def Question.free (question : Question) : Question :=
  { question with parent := none, showWhen := none }

/-- What becomes of a question when another one is removed: it loses its link and its condition if
it depended on that one, and else stays as it is. -/
structure Question.Freed (removed : QuestionId) (former now : Question) : Prop where
  dependent : former.parent = some removed → now = former.free
  other : former.parent ≠ some removed → now = former

theorem freed_unlink (id : QuestionId) (question : Question) :
    question.Freed id (Document.unlink id question) :=
  ⟨fun hparent => if_pos hparent, fun hparent => if_neg hparent⟩

theorem forall₂_freed (id : QuestionId) (questions : List Question) :
    List.Forall₂ (Question.Freed id) questions (questions.map (Document.unlink id)) := by
  rw [List.forall₂_map_right_iff, List.forall₂_same]
  exact fun question _ => freed_unlink id question

/-- To take out a question whose identifier is its own is to keep those with other identifiers. -/
theorem eraseIdx_eq_filter {questions : List Question} (hids : (questions.map (·.id)).Nodup)
    {i : Nat} {removed : Question} (hget : questions[i]? = some removed) :
    questions.eraseIdx i = questions.filter (·.id ≠ removed.id) := by
  induction questions generalizing i with
  | nil => cases hget
  | cons head rest ih =>
      rw [List.map_cons, List.nodup_cons] at hids
      cases i with
      | zero =>
          obtain rfl := Option.some.inj hget
          have hrest : rest.filter (·.id ≠ head.id) = rest := by
            rw [List.filter_eq_self]
            intro other hother
            have hne : other.id ≠ head.id := fun hid => hids.1 (hid ▸ List.mem_map_of_mem hother)
            simpa using hne
          rw [List.eraseIdx_cons_zero, List.filter_cons_of_neg (by simp), hrest]
      | succ i =>
          have hmem : removed ∈ rest := List.mem_of_getElem? hget
          have hne : head.id ≠ removed.id := fun hid => hids.1 (hid ▸ List.mem_map_of_mem hmem)
          rw [List.eraseIdx_cons_succ, List.filter_cons_of_pos (by simpa using hne), ih hids.2 hget]

/-! ### The frame of a document -/

/-- Lists of which the same is read are the same if it tells their entries apart. -/
theorem eq_of_map_eq {α β : Type} {entries others : List α} {read : α → β}
    (hread : entries.map read = others.map read)
    (h : ∀ (i : Nat) (a b : α), entries[i]? = some a → others[i]? = some b → read a = read b →
      a = b) :
    entries = others := by
  refine List.ext_getElem? fun i => ?_
  have hi : (entries.map read)[i]? = (others.map read)[i]? := by rw [hread]
  rw [List.getElem?_map, List.getElem?_map] at hi
  cases ha : entries[i]? with
  | none =>
      rw [ha, Option.map_none, eq_comm, Option.map_eq_none_iff] at hi
      exact hi.symm
  | some a =>
      rw [ha, Option.map_some, eq_comm, Option.map_eq_some_iff] at hi
      obtain ⟨b, hb, hsame⟩ := hi
      rw [hb, h i a b ha hb hsame.symm]

/-- What is listed of the entries does not change with an entry of which the same is listed. -/
theorem map_modify_eq {α β : Type} {entries : List α} {i : Nat} {change : α → α} {read : α → β}
    (h : ∀ entry, read (change entry) = read entry) :
    (entries.modify i change).map read = entries.map read := by
  refine List.ext_getElem? fun k => ?_
  rw [List.getElem?_map, List.getElem?_map, List.getElem?_modify]
  cases entries[k]? with
  | none => rfl
  | some entry => by_cases hk : i = k <;> simp [hk, h]

namespace Document

variable {document : Document} {key : GroupKey} {group : Group} {coords : QuestionCoords}
  {id : QuestionId}

/-- The document without its questions: its pages, sections and groups with their titles, numbers
and flags. -/
def frame (document : Document) : Document :=
  { document with
    pages := document.pages.map fun page =>
      { page with
        sections := page.sections.map fun part =>
          { part with groups := part.groups.map fun group => { group with questions := [] } } } }

theorem frame_modifyQuestions (document : Document) (key : GroupKey)
    (change : List Question → List Question) :
    (document.modifyQuestions key change).frame = document.frame := by
  refine congrArg (Document.mk document.sourceName) (map_modify_eq fun page => ?_)
  refine congrArg (Page.mk page.title page.pageNumber) (map_modify_eq fun part => ?_)
  exact congrArg (Section.mk part.title) (map_modify_eq fun group => rfl)

theorem frame_mapQuestions (document : Document) (change : Question → Question) :
    (document.mapQuestions change).frame = document.frame := by
  simp only [frame, mapQuestions, List.map_map, Function.comp_def]

/-- Documents with one frame and the same questions at the same places are the same. -/
theorem eq_of_frame_eq {other : Document} (hframe : document.frame = other.frame)
    (h : ∀ coords, document.question? coords = other.question? coords) : document = other := by
  obtain ⟨source, pages⟩ := document
  obtain ⟨_, pages'⟩ := other
  obtain ⟨rfl, hpages⟩ := Document.mk.inj hframe
  refine congrArg (Document.mk source) (eq_of_map_eq hpages fun p page page' hp hp' hpage => ?_)
  obtain ⟨title, number, sections⟩ := page
  obtain ⟨_, _, sections'⟩ := page'
  obtain ⟨rfl, rfl, hsections⟩ := Page.mk.inj hpage
  refine congrArg (Page.mk title number)
    (eq_of_map_eq hsections fun s part part' hs hs' hpart => ?_)
  obtain ⟨name, groups⟩ := part
  obtain ⟨_, groups'⟩ := part'
  obtain ⟨rfl, hgroups⟩ := Section.mk.inj hpart
  refine congrArg (Section.mk name) (eq_of_map_eq hgroups fun g group group' hg hg' hgroup => ?_)
  obtain ⟨label, repeatable, questions⟩ := group
  obtain ⟨_, _, questions'⟩ := group'
  obtain ⟨rfl, rfl, -⟩ := Group.mk.inj hgroup
  refine congrArg (Group.mk label repeatable) (List.ext_getElem? fun q => ?_)
  have hq := h ⟨p, s, g, q⟩
  simpa [question?, group?, QuestionCoords.groupKey, hp, hp', hs, hs', hg, hg'] using hq

/-! ### Freeing dependents one by one -/

/-- Where the questions stand that depend on one. -/
def dependents (document : Document) (id : QuestionId) : List QuestionCoords :=
  (document.questions.filter fun entry => entry.2.parent = some id).map (·.1)

/-- The document with the question at some coordinates made independent. -/
def freeAt (document : Document) (coords : QuestionCoords) : Document :=
  document.modifyQuestions coords.groupKey (·.modify coords.questionIndex Question.free)

theorem mem_dependents_iff : coords ∈ document.dependents id ↔
    ∃ question, document.question? coords = some question ∧ question.parent = some id := by
  simp only [dependents, List.mem_map, List.mem_filter, decide_eq_true_eq, Prod.exists,
    exists_and_right, exists_eq_right, mem_questions_iff]

theorem question?_freeAt (document : Document) (place coords : QuestionCoords) :
    (document.freeAt place).question? coords =
      if coords = place then (document.question? coords).map Question.free
      else document.question? coords := by
  unfold freeAt modifyQuestions
  by_cases hgroup : coords.groupKey = place.groupKey
  · have hplace : place.questionIndex = coords.questionIndex ↔ coords = place :=
      ⟨fun hindex => QuestionCoords.ext_groupKey hgroup hindex.symm,
        fun heq => congrArg QuestionCoords.questionIndex heq.symm⟩
    simp only [question?, group?_modifyGroup, hgroup, if_true]
    cases document.group? place.groupKey with
    | none => simp
    | some group =>
        simp only [Option.map_some, Option.bind_eq_bind, Option.bind_some, List.getElem?_modify,
          hplace]
        split <;> simp
  · have hne : coords ≠ place := fun heq => hgroup (congrArg QuestionCoords.groupKey heq)
    simp only [question?, group?_modifyGroup, if_neg hgroup, if_neg hne]

/-- To free some questions one by one changes these and no others. -/
theorem question?_foldl_freeAt (places : List QuestionCoords) (document : Document)
    (coords : QuestionCoords) :
    (places.foldl freeAt document).question? coords =
      if coords ∈ places then (document.question? coords).map Question.free
      else document.question? coords := by
  induction places generalizing document with
  | nil => rfl
  | cons place places ih =>
      rw [List.foldl_cons, ih, question?_freeAt]
      by_cases hplace : coords = place
      · have hmem : coords ∈ place :: places := hplace ▸ List.mem_cons_self
        rw [if_pos hplace, if_pos hmem, Option.map_map]
        -- to free a question twice is to free it once
        split <;> rfl
      · simp only [List.mem_cons, hplace, false_or, if_false]

theorem frame_foldl_freeAt (places : List QuestionCoords) (document : Document) :
    (places.foldl freeAt document).frame = document.frame := by
  induction places generalizing document with
  | nil => rfl
  | cons place places ih => rw [List.foldl_cons, ih, freeAt, frame_modifyQuestions]

/-- The dependents of a question can be looked up once and then be freed one by one, each where it
stands: this frees the same questions as a look at every question does. -/
theorem foldl_freeAt_dependents (document : Document) (id : QuestionId) :
    (document.dependents id).foldl freeAt document = document.mapQuestions (unlink id) := by
  refine eq_of_frame_eq ?_ fun coords => ?_
  · rw [frame_foldl_freeAt, frame_mapQuestions]
  · rw [question?_foldl_freeAt, question?_mapQuestions]
    cases hquestion : document.question? coords with
    | none => split <;> rfl
    | some question =>
        have hdependent : coords ∈ document.dependents id ↔ question.parent = some id := by
          simp [mem_dependents_iff, hquestion]
        simp only [hdependent, Option.map_some, unlink]
        split <;> rfl

/-! ### The removal -/

/-- The document `next` is `document` without a question, the links to it cleared and all else
unchanged. -/
structure Unlinked (document next : Document) (id : QuestionId) : Prop where
  frame : next.frame = document.frame
  sequence : ∃ earlier removed later, document.sequence = earlier ++ removed :: later ∧
    removed.id = id ∧ List.Forall₂ (Question.Freed id) (earlier ++ later) next.sequence
  /-- Every question stays in its group. -/
  groups : ∀ key group, document.group? key = some group → ∃ now, next.group? key = some now ∧
    List.Forall₂ (Question.Freed id) (group.questions.filter (·.id ≠ id)) now.questions
  /-- No question is or refers to the removed one. -/
  unreferenced : ∀ question ∈ next.sequence, question.id ≠ id ∧ question.parent ≠ some id
  /-- Former dependents are shown at every live instance. -/
  shown : ∀ question ∈ document.sequence, question.parent = some id → ∃ coords,
    next.locate? question.id = some coords ∧
    ∀ (state : FormState) (mode : VisibilityMode) (i : Nat),
      i < next.liveInstances state.instances coords.groupKey →
        (next.visibility state mode).get? (coords.fieldKey i) = some true

section consistent

variable (hcheck : document.checkDependencies = [])
include hcheck

theorem nodup_group (hgroup : document.group? key = some group) :
    (group.questions.map (·.id)).Nodup := by
  obtain ⟨before, after, -, -, hquestions, -⟩ := exists_questions_modifyQuestions hgroup
  have hids := (checkDependencies_eq_nil_iff.1 hcheck).ids
  simp only [sequence, hquestions, List.map_append, map_snd_questionsAt] at hids
  exact hids.of_append_right.of_append_left

/-- A question is taken out of its group, and no other group has a question with its identifier. -/
theorem group?_takeOut (hlocate : document.locate? id = some coords)
    (hgroup : document.group? key = some group) :
    (document.takeOut coords).group? key =
      some { group with questions := group.questions.filter (·.id ≠ id) } := by
  obtain ⟨removed, hremoved, rfl⟩ := exists_question?_of_locate? hlocate
  rw [takeOut, modifyQuestions, group?_modifyGroup, hgroup]
  split
  · rename_i hkey
    obtain ⟨found, hfound, hget⟩ := question?_eq_some_iff.1 hremoved
    rw [← hkey, hgroup, Option.some.injEq] at hfound
    subst hfound
    rw [Option.map_some, eraseIdx_eq_filter (nodup_group hcheck hgroup) hget]
  · rename_i hkey
    have hkept : group.questions.filter (·.id ≠ removed.id) = group.questions := by
      rw [List.filter_eq_self]
      intro other hother
      obtain ⟨j, hj⟩ := List.getElem?_of_mem hother
      have hthere : document.question? (key.question j) = some other :=
        question?_eq_some_iff.2 ⟨group, hgroup, hj⟩
      have hne : other.id ≠ removed.id := by
        intro hid
        have hplace := locate?_of_question? hcheck hthere
        rw [hid, hlocate, Option.some.injEq] at hplace
        rw [hplace] at hkey
        exact hkey rfl
      simpa using hne
    rw [hkept]

/-- The removed question, and the row of the others. -/
theorem exists_row_of_locate? (hlocate : document.locate? id = some coords) :
    ∃ earlier removed later, document.sequence = earlier ++ removed :: later ∧ removed.id = id ∧
      document.question? coords = some removed ∧ Linked (earlier ++ removed :: later) ∧
      (document.takeOut coords).sequence = earlier ++ later := by
  obtain ⟨removed, hremoved, hid⟩ := exists_question?_of_locate? hlocate
  obtain ⟨earlier, later, hcut, hsequence, -⟩ := exists_cut_at hremoved
  have hlinked := checkDependencies_eq_nil_iff.1 hcheck
  rw [hcut.sequence, List.map_cons] at hlinked
  exact ⟨earlier.map (·.2), removed, later.map (·.2), hcut.sequence, hid, hremoved, hlinked,
    hsequence⟩

/-- A dependent is found again, without its link, where it stands then. -/
theorem question?_of_dependent (hlocate : document.locate? id = some coords) {question : Question}
    (hquestion : question ∈ document.sequence) (hparent : question.parent = some id) :
    ∃ place, ((document.takeOut coords).mapQuestions (unlink id)).question? place =
      some question.free := by
  obtain ⟨earlier, removed, later, hsequence, rfl, hremoved, hlinked, -⟩ :=
    exists_row_of_locate? hcheck hlocate
  obtain ⟨⟨former, _⟩, hentry, rfl⟩ := List.mem_map.1 hquestion
  have hformer := mem_questions_iff.1 hentry
  -- dependents come later, so the removed question is not one of its own
  rw [hsequence] at hquestion
  have hlater := hlinked.mem_later_of_parent hquestion hparent
  have hne : former ≠ coords := by
    rintro rfl
    rw [hremoved, Option.some.injEq] at hformer
    exact hlinked.id_ne (List.mem_append_right _ hlater) (congrArg Question.id hformer.symm)
  refine ⟨coords.afterRemoval former, ?_⟩
  rw [question?_mapQuestions, question?_takeOut hformer hne, Option.map_some]
  exact congrArg some ((freed_unlink removed.id _).dependent hparent)

theorem unlinked_of_locate? (hlocate : document.locate? id = some coords) :
    document.Unlinked ((document.takeOut coords).mapQuestions (unlink id)) id := by
  obtain ⟨earlier, removed, later, hsequence, hid, -, hlinked, hrow⟩ :=
    exists_row_of_locate? hcheck hlocate
  have hnext := checkDependencies_takeOut_unlink hcheck hlocate
  have hleft : ((document.takeOut coords).mapQuestions (unlink id)).sequence =
      (earlier ++ later).map (unlink id) := by
    rw [sequence_mapQuestions, hrow]
  constructor
  · rw [frame_mapQuestions, takeOut, frame_modifyQuestions]
  · refine ⟨earlier, removed, later, hsequence, hid, ?_⟩
    rw [hleft]
    exact forall₂_freed id _
  · intro key group hgroup
    have hnow := group?_mapQuestions (document.takeOut coords) (unlink id) key
    rw [group?_takeOut hcheck hlocate hgroup] at hnow
    exact ⟨_, hnow, forall₂_freed id _⟩
  · intro question hquestion
    rw [hleft] at hquestion
    obtain ⟨former, hformer, rfl⟩ := List.mem_map.1 hquestion
    constructor
    · rw [id_unlink, ← hid]
      exact hlinked.id_ne hformer
    · exact fun hparent => (parent_unlink_eq_some_iff.1 hparent).2 rfl
  · intro question hquestion hparent
    obtain ⟨place, hplace⟩ := question?_of_dependent hcheck hlocate hquestion hparent
    have hfound := locate?_of_question? hnext hplace
    refine ⟨place, hfound, fun state mode i hi => ?_⟩
    -- without a parent a question is shown
    rw [get?_visibility_fieldKey hplace hi]
    rfl

/-- **The removal of a question clears exactly the links to it.** In a consistent document every
question can be removed. The pages, sections and groups stay as they are, and so do the other
questions, each in its group, except that those that depended on the removed one lose their link and
their condition and are always shown. -/
theorem remove_unlinks (hid : ∃ question ∈ document.sequence, question.id = id) :
    ∃ next, document.edit (.remove id) = .ok next ∧ document.Unlinked next id := by
  obtain ⟨coords, hlocate⟩ := Option.isSome_iff_exists.1 (isSome_locate?_iff.2 hid)
  have hnext := checkDependencies_takeOut_unlink hcheck hlocate
  exact ⟨_, removeQuestion_eq_ok_iff.2 ⟨coords, hlocate, rfl, hnext⟩,
    unlinked_of_locate? hcheck hlocate⟩

end consistent

/-- Without the question whether there are pets, their names are asked for anyway. -/
theorem remove_unlinks_petForm : petForm.checkDependencies = [] ∧
    (∃ question ∈ petForm.sequence, question.id = "pets") ∧
    ∃ next, petForm.edit (.remove "pets") = .ok next ∧ petForm.Unlinked next "pets" ∧
      next.locate? "names" = some ⟨0, 0, 0, 0⟩ ∧
      (next.visibility .empty .hidden).get? ⟨0, 0, 0, 0, 0⟩ = some true := by
  have hcheck : petForm.checkDependencies = [] := by decide
  have hid : ∃ question ∈ petForm.sequence, question.id = "pets" := by
    simp [petForm, sequence_eq_flatMap]
  obtain ⟨next, hnext, hunlinked⟩ := remove_unlinks hcheck hid
  have hplace : next.locate? "names" = some ⟨0, 0, 0, 0⟩ :=
    locate?_of_edit hnext (show petForm.locate? "names" = some ⟨0, 0, 0, 1⟩ from rfl) (by simp)
  obtain ⟨coords, hfound, hshown⟩ := hunlinked.shown
    { Question.blank with id := "names", parent := some "pets", showWhen := some (.one "yes") }
    (by simp [petForm, sequence_eq_flatMap]) rfl
  obtain rfl := Option.some.inj (hplace.symm.trans hfound)
  exact ⟨hcheck, hid, next, hnext, hunlinked, hplace,
    hshown .empty .hidden 0 (liveInstances_pos next _ _)⟩

end Document

end Questionnaire
