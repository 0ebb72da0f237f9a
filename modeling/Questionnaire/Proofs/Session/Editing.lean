import Questionnaire.Proofs.Address.Extension
import Questionnaire.Proofs.Document.Places
import Questionnaire.Proofs.Session.Run

/-! # Answers after an edit

Answers are kept by place: a session that goes on with an edited document leaves them where they
are, unless their instance is dropped (`Session.answer?_replaceDocument`). A question that the edit
moves therefore shows what is kept at its new place, and only one that stays where it is keeps its
answers (`Session.answers_of_edit`). -/

namespace Questionnaire

namespace Document

variable {document edited : Document}

theorem isUsable_of_group? {key : GroupKey} {group : Group}
    (h : document.group? key = some group) : document.isUsable = true := by
  obtain ⟨page, hpage, -⟩ := Option.bind_eq_some_iff.1 h
  have hne : document.pages ≠ [] := List.ne_nil_of_mem (List.mem_of_getElem? hpage)
  simp [isUsable, hne]

theorem isUsable_of_locate? {id : QuestionId} {coords : QuestionCoords}
    (h : document.locate? id = some coords) : document.isUsable = true := by
  obtain ⟨_, hquestion, -⟩ := exists_question?_of_locate? h
  obtain ⟨_, hgroup, -⟩ := question?_eq_some_iff.1 hquestion
  exact isUsable_of_group? hgroup

theorem isUsable_modifyGroup (document : Document) (key : GroupKey) (change : Group → Group) :
    (document.modifyGroup key change).isUsable = document.isUsable := by
  have hpages (change : Page → Page) :
      (document.pages.modify key.pageIndex change).isEmpty = document.pages.isEmpty := by
    rw [Bool.eq_iff_iff, List.isEmpty_iff_length_eq_zero, List.isEmpty_iff_length_eq_zero,
      List.length_modify]
  simp only [isUsable, modifyGroup, hpages]

/-- An edited document can be filled in. -/
theorem isUsable_of_edit {edit : Edit} (h : document.edit edit = .ok edited) :
    edited.isUsable = true := by
  cases edit with
  | update id question =>
      obtain ⟨coords, hlocate, rfl, -⟩ := updateQuestion_eq_ok_iff.1 h
      exact (isUsable_modifyGroup _ _ _).trans (isUsable_of_locate? hlocate)
  | insert key position question =>
      obtain ⟨group, hgroup, -, rfl, -⟩ := place_eq_ok_iff.1 h
      exact (isUsable_modifyGroup _ _ _).trans (isUsable_of_group? hgroup)
  | remove id =>
      obtain ⟨coords, hlocate, rfl, -⟩ := removeQuestion_eq_ok_iff.1 h
      have hmapped : ((document.takeOut coords).mapQuestions (unlink id)).isUsable =
          (document.takeOut coords).isUsable := by
        simp [isUsable, mapQuestions]
      rw [hmapped]
      exact (isUsable_modifyGroup _ _ _).trans (isUsable_of_locate? hlocate)
  | move id key position =>
      obtain ⟨coords, question, group, -, -, -, hgroup, -, rfl, -⟩ := moveQuestion_eq_ok_iff.1 h
      exact (isUsable_modifyGroup _ _ _).trans (isUsable_of_group? hgroup)
  | setRepeatable key repeatable =>
      obtain ⟨group, hgroup, rfl⟩ := setRepeatable_eq_ok_iff.1 h
      exact (isUsable_modifyGroup _ _ _).trans (isUsable_of_group? hgroup)

end Document

namespace Session

variable {session next : Session} {edited : Document}

/-- Whether a group has the instance, so that its answers there are looked at. -/
def Live (session : Session) (group : GroupKey) (index : Nat) : Prop :=
  index < session.state.instances.count group

/-- Whether the answers to every question go with it when the session goes on with the document
that an edit makes. -/
def AnswersFollow (session : Session) (edit : Edit) : Prop :=
  ∀ edited next, session.document.edit edit = .ok edited →
    session.replaceDocument edited = .ok next →
    ∀ id before after, session.document.locate? id = some before →
      edited.locate? id = some after →
      ∀ index, session.Live before.groupKey index → next.Live after.groupKey index →
        ∀ extension, next.answer? ((after.fieldKey index).extended extension) =
          session.answer? ((before.fieldKey index).extended extension)

theorem live_zero (session : Session) (group : GroupKey) : session.Live group 0 :=
  Nat.lt_of_lt_of_le Nat.zero_lt_one (Nat.le_max_left _ _)

/-- What is kept at a place is the same before and after the document is replaced, as long as the
instance is there. -/
theorem answer?_replaceDocument (h : session.replaceDocument edited = .ok next)
    {coords : QuestionCoords} {index : Nat} (hlive : next.Live coords.groupKey index)
    (extension : KeyExtension) :
    next.answer? ((coords.fieldKey index).extended extension) =
      session.answer? ((coords.fieldKey index).extended extension) := by
  have hnot : ¬ FormState.AddressesLater (overfilledGroups edited session.state.instances)
      ((coords.fieldKey index).extended extension) := by
    rintro ⟨field, rest, hsplit, hmem, hlater⟩
    obtain ⟨htext, -, hends⟩ := FieldKey.split?_eq_some_iff.1 hsplit
    rw [FieldKey.extended_eq] at htext
    obtain ⟨rfl, -⟩ := FieldKey.text_append_inj extension.endsCoordinate_text hends htext
    -- a group that has been collapsed has its first instance alone
    rw [QuestionCoords.groupKey_fieldKey] at hmem
    rw [Live, count_replaceDocument h, if_pos hmem] at hlive
    rw [QuestionCoords.instanceIndex_fieldKey] at hlater
    omega
  obtain rfl := replaceDocument_eq_ok h
  ext value
  exact (FormState.get?_foldl_collapse_answers _ _ _ _).trans (and_iff_left hnot)

/-- **Answers stay at their place.** A session goes on with every document that an edit makes of its
own. A question that is not removed then stands where the edit puts it, and at every instance that
is there its answer, those to its sub-questions and its free texts are the ones that were kept at
that very place before; they are still its own if the edit has not moved it. -/
theorem answers_of_edit {edit : Edit} (hedit : session.document.edit edit = .ok edited) :
    ∃ next, session.replaceDocument edited = .ok next ∧ next.document = edited ∧
      ∀ id before, session.document.locate? id = some before → edit ≠ .remove id →
        edited.locate? id = some (session.document.placeAfter edit before) ∧
        ∀ index, next.Live (session.document.placeAfter edit before).groupKey index →
          ∀ extension, next.answer?
              (((session.document.placeAfter edit before).fieldKey index).extended extension) =
            session.answer?
              (((session.document.placeAfter edit before).fieldKey index).extended extension) := by
  have husable := Document.isUsable_of_edit hedit
  obtain ⟨next, hnext⟩ : ∃ next, session.replaceDocument edited = .ok next :=
    ⟨_, if_pos husable⟩
  refine ⟨next, hnext, congrArg Session.document (replaceDocument_eq_ok hnext), ?_⟩
  intro id before hlocate hkept
  exact ⟨Document.locate?_of_edit hedit hlocate hkept,
    fun index hlive extension => answer?_replaceDocument hnext hlive extension⟩

/-- Answers follow an edit that leaves every question where it is. -/
theorem answersFollow_of_placeAfter {edit : Edit} (hkept : ∀ id, edit ≠ .remove id)
    (hstays : ∀ id before, session.document.locate? id = some before →
      session.document.placeAfter edit before = before) : session.AnswersFollow edit := by
  intro edited next hedit hnext id before after hbefore hafter index _ hlive extension
  have hlocate := Document.locate?_of_edit hedit hbefore (hkept id)
  rw [hstays id before hbefore, hafter, Option.some.injEq] at hlocate
  subst hlocate
  exact answer?_replaceDocument hnext hlive extension

/-- So they do when a question is put behind all others of its group. -/
theorem answersFollow_append (session : Session) (group : GroupKey) (question : Question) :
    session.AnswersFollow (.insert group none question) :=
  answersFollow_of_placeAfter (fun _ h => by cases h) fun _ _ _ => rfl

theorem answersFollow_update (session : Session) (id : QuestionId) (question : Question) :
    session.AnswersFollow (.update id question) :=
  answersFollow_of_placeAfter (fun _ h => by cases h) fun _ _ _ => rfl

/-- A form that asks for a pet's name and its vet. -/
def visitForm : Document :=
  ⟨"visit.pdf", [⟨"Visit", 1, [⟨"", [⟨"", false, [
    { Question.blank with id := "name" }, { Question.blank with id := "vet" }]⟩]⟩]⟩]⟩

/-- The form with the name filled in. -/
def visit : Session :=
  ⟨visitForm, ⟨Table.ofList [("p0_s0_g0_q0_i0", .text "Rex")], Table.empty⟩, .compact⟩

/-- Once the name is not asked for any more, it is the answer to who the vet is. -/
theorem answers_of_edit_visit : ∃ edited next,
    visit.document.edit (.remove "name") = .ok edited ∧
      visit.replaceDocument edited = .ok next ∧ edited.locate? "vet" = some ⟨0, 0, 0, 0⟩ ∧
      next.answer? "p0_s0_g0_q0_i0" = some (.text "Rex") := by
  obtain ⟨edited, hedit⟩ : ∃ edited, visit.document.edit (.remove "name") = .ok edited := ⟨_, rfl⟩
  obtain ⟨next, hnext, -, hplaces⟩ := answers_of_edit hedit
  obtain ⟨hlocate, hanswers⟩ := hplaces "vet" ⟨0, 0, 0, 1⟩ (by decide) (by simp)
  have hplace : visit.document.placeAfter (.remove "name") ⟨0, 0, 0, 1⟩ = ⟨0, 0, 0, 0⟩ := by decide
  rw [hplace] at hlocate hanswers
  have hanswer := hanswers 0 (next.live_zero _) ⟨none, none⟩
  exact ⟨edited, next, hedit, hnext, hlocate, hanswer.trans (by decide)⟩

/-- So the name of the pet does not go with the question for it, nor does the missing answer to the
other question. -/
theorem not_answersFollow_visit : ¬ visit.AnswersFollow (.remove "name") := by
  intro hfollow
  have hsame := hfollow _ _ rfl rfl "vet" ⟨0, 0, 0, 1⟩ ⟨0, 0, 0, 0⟩ (by decide) (by decide) 0
    (live_zero _ _) (live_zero _ _) ⟨none, none⟩
  revert hsame
  decide

end Session

end Questionnaire
