import Mathlib.Data.List.Nodup
import Mathlib.Data.List.Perm.Basic
import Questionnaire.Proofs.Document.Order

/-! # Consistent documents

A row of questions is `Linked` if no identifier stands in it twice and every parent link goes back
to a choice question; a document has no dependency issue exactly if its questions, in document
order, are linked (`Document.checkDependencies_eq_nil_iff`).

The second part says what inserting, removing, replacing or moving one question does to a linked
row. Each is settled by the question itself and by those that depend on it, whatever else is in the
row (`linked_insert_iff`, `Linked.unlink`, `linked_replace_iff`, `linked_move_iff`). -/

namespace Questionnaire

/-! ### Linked rows -/

/-- The question has no parent, or its parent is a choice question among some others. -/
def Question.LinksInto (earlier : List Question) (question : Question) : Prop :=
  ∀ parent, question.parent = some parent →
    ∃ found ∈ earlier, found.id = parent ∧ found.answerType.canBeParent = true

/-- Every parent link of the questions goes back to a choice question among those in the row before
it, where the `earlier` ones come first. -/
def LinkedAfter (earlier questions : List Question) : Prop :=
  ∀ before question after, questions = before ++ question :: after →
    question.LinksInto (earlier ++ before)

/-- A row of questions in which no identifier stands twice and every parent link goes back to a
choice question. -/
structure Linked (questions : List Question) : Prop where
  ids : (questions.map (·.id)).Nodup
  links : LinkedAfter [] questions

theorem Question.LinksInto.mono {earlier more : List Question} {question : Question}
    (h : question.LinksInto earlier) (hsub : earlier ⊆ more) : question.LinksInto more := by
  intro parent hparent
  obtain ⟨found, hfound, hid, hchoice⟩ := h parent hparent
  exact ⟨found, hsub hfound, hid, hchoice⟩

theorem linkedAfter_nil (earlier : List Question) : LinkedAfter earlier [] := by
  intro before question after h
  simp at h

theorem linkedAfter_cons {earlier rest : List Question} {question : Question} :
    LinkedAfter earlier (question :: rest) ↔
      question.LinksInto earlier ∧ LinkedAfter (earlier ++ [question]) rest := by
  constructor
  · intro h
    refine ⟨?_, fun before other after hrest => ?_⟩
    · have := h [] question rest rfl
      rwa [List.append_nil] at this
    · have := h (question :: before) other after (by rw [hrest, List.cons_append])
      rwa [List.append_assoc, List.singleton_append]
  · rintro ⟨hquestion, hrest⟩ before other after h
    cases before with
    | nil =>
        obtain ⟨rfl, rfl⟩ := List.cons.inj h
        rwa [List.append_nil]
    | cons head before =>
        obtain ⟨rfl, htail⟩ := List.cons.inj h
        have := hrest before other after htail
        rwa [List.append_assoc, List.singleton_append] at this

theorem linkedAfter_append {earlier first second : List Question} :
    LinkedAfter earlier (first ++ second) ↔
      LinkedAfter earlier first ∧ LinkedAfter (earlier ++ first) second := by
  induction first generalizing earlier with
  | nil => simp [linkedAfter_nil]
  | cons question first ih =>
      rw [List.cons_append, linkedAfter_cons, linkedAfter_cons, ih, List.append_assoc,
        List.singleton_append, and_assoc]

theorem LinkedAfter.mono {earlier more questions : List Question}
    (h : LinkedAfter earlier questions) (hsub : earlier ⊆ more) : LinkedAfter more questions :=
  fun before question after hquestions =>
    (h before question after hquestions).mono (List.append_subset.2
      ⟨List.subset_append_of_subset_left _ hsub, List.subset_append_right _ _⟩)

theorem linked_cut_iff {earlier later : List Question} {question : Question} :
    Linked (earlier ++ question :: later) ↔
      ((earlier ++ question :: later).map (·.id)).Nodup ∧ LinkedAfter [] earlier ∧
        question.LinksInto earlier ∧ LinkedAfter (earlier ++ [question]) later := by
  constructor
  · rintro ⟨hids, hlinks⟩
    rw [linkedAfter_append, linkedAfter_cons, List.nil_append] at hlinks
    exact ⟨hids, hlinks⟩
  · rintro ⟨hids, hlinks⟩
    refine ⟨hids, ?_⟩
    rwa [linkedAfter_append, linkedAfter_cons, List.nil_append]

theorem eq_of_id_eq {questions : List Question} (hids : (questions.map (·.id)).Nodup)
    {a b : Question} (ha : a ∈ questions) (hb : b ∈ questions) (h : a.id = b.id) : a = b :=
  List.inj_on_of_nodup_map hids ha hb h

/-! ### The check -/

namespace Document

variable {document : Document}

theorem isSome_locate?_iff {id : QuestionId} :
    (document.locate? id).isSome = true ↔ ∃ question ∈ document.sequence, question.id = id := by
  simp only [locate?, Option.isSome_map, List.find?_isSome, sequence, List.mem_map, beq_iff_eq]
  constructor
  · rintro ⟨entry, hentry, hid⟩
    exact ⟨entry.2, ⟨entry, hentry, rfl⟩, hid⟩
  · rintro ⟨_, ⟨entry, hentry, rfl⟩, hid⟩
    exact ⟨entry, hentry, hid⟩

theorem linkIssue?_eq_none_iff {earlier : List Question}
    (hids : (earlier.map (·.id)).Nodup) {question : Question} :
    document.linkIssue? earlier question = none ↔ question.LinksInto earlier := by
  unfold linkIssue? Question.LinksInto
  cases hparent : question.parent with
  | none => simp
  | some parent =>
      simp only [Option.bind_eq_bind, Option.bind_some, Option.some.injEq, forall_eq']
      split
      · rename_i found hfound
        have hmem := List.mem_of_find?_eq_some hfound
        have hid : (found.id == parent) = true :=
          List.find?_some (p := fun question : Question => question.id == parent) hfound
        rw [beq_iff_eq] at hid
        rw [ite_eq_left_iff, Bool.not_eq_true, ← Bool.not_eq_true]
        constructor
        · intro h
          exact ⟨found, hmem, hid, by simpa using h⟩
        · rintro ⟨other, hother, hotherId, hchoice⟩ hnot
          obtain rfl := eq_of_id_eq hids hmem hother (hid.trans hotherId.symm)
          exact absurd hchoice hnot
      · rename_i hfound
        have hnot : ¬ ∃ found ∈ earlier, found.id = parent ∧
            found.answerType.canBeParent = true := by
          rintro ⟨found, hmem, hid, -⟩
          exact absurd (beq_iff_eq.2 hid) (List.find?_eq_none.1 hfound found hmem)
        simp only [hnot, iff_false]
        split <;> simp

theorem issuesAfter_eq_nil_iff {earlier rest : List Question}
    (hids : (earlier.map (·.id)).Nodup) :
    document.issuesAfter earlier rest = [] ↔
      ((earlier ++ rest).map (·.id)).Nodup ∧ LinkedAfter earlier rest := by
  induction rest generalizing earlier with
  | nil => simp [issuesAfter, hids, linkedAfter_nil]
  | cons question rest ih =>
      rw [issuesAfter]
      by_cases htaken : earlier.any (·.id == question.id) = true
      · -- an identifier that is taken stands twice in the row
        rw [if_pos htaken]
        obtain ⟨other, hother, hid⟩ := List.any_eq_true.1 htaken
        have hnot : ¬ ((earlier ++ question :: rest).map (·.id)).Nodup := by
          intro hnodup
          rw [List.map_append, List.nodup_append] at hnodup
          exact hnodup.2.2 _ (List.mem_map_of_mem hother) _
            (List.mem_map_of_mem List.mem_cons_self) (beq_iff_eq.1 hid)
        simp only [reduceCtorEq, hnot, false_and]
      · rw [if_neg htaken]
        have hnew : question.id ∉ earlier.map (·.id) := by
          intro hmem
          obtain ⟨other, hother, hid⟩ := List.mem_map.1 hmem
          exact htaken (List.any_eq_true.2 ⟨other, hother, beq_iff_eq.2 hid⟩)
        have hids' : ((earlier ++ [question]).map (·.id)).Nodup := by
          rw [List.map_append, List.map_singleton, ← List.concat_eq_append]
          exact hids.concat hnew
        rw [List.append_eq_nil_iff, Option.toList_eq_nil_iff, linkIssue?_eq_none_iff hids, ih hids',
          linkedAfter_cons, List.append_assoc, List.singleton_append]
        exact and_left_comm

/-- A document has no dependency issue exactly if its questions are linked. -/
theorem checkDependencies_eq_nil_iff :
    document.checkDependencies = [] ↔ Linked document.sequence := by
  have hcheck : document.checkDependencies = [] ↔
      (document.sequence.map (·.id)).Nodup ∧ LinkedAfter [] document.sequence :=
    issuesAfter_eq_nil_iff List.nodup_nil
  exact hcheck.trans ⟨fun h => ⟨h.1, h.2⟩, fun h => ⟨h.ids, h.links⟩⟩

/-- If no identifier stands twice and every parent link goes to a choice question of the document,
a parent can only stand too late. -/
theorem eq_parentNotEarlier_of_mem_issuesAfter {issue : DependencyIssue}
    (hids : (document.sequence.map (·.id)).Nodup)
    (hlinks : ∀ question ∈ document.sequence, question.LinksInto document.sequence)
    {earlier rest : List Question} (hrow : document.sequence = earlier ++ rest)
    (hissue : issue ∈ document.issuesAfter earlier rest) :
    ∃ question parent, issue = .parentNotEarlier question parent := by
  induction rest generalizing earlier with
  | nil => simp [issuesAfter] at hissue
  | cons question rest ih =>
      have hnew : (earlier.any (·.id == question.id)) = false := by
        rw [List.any_eq_false]
        intro other hother hid
        rw [hrow, List.map_append, List.nodup_append] at hids
        exact hids.2.2 _ (List.mem_map_of_mem hother) _
          (List.mem_map_of_mem List.mem_cons_self) (beq_iff_eq.1 hid)
      rw [issuesAfter, hnew, if_neg Bool.false_ne_true] at hissue
      rcases List.mem_append.1 hissue with hissue | hissue
      · rw [Option.mem_toList, linkIssue?] at hissue
        obtain ⟨parent, hparent, hissue⟩ := Option.bind_eq_some_iff.1 hissue
        have hmem : question ∈ document.sequence := by
          rw [hrow]
          exact List.mem_append_right _ List.mem_cons_self
        obtain ⟨choice, hchoice, hid, hkind⟩ := hlinks question hmem parent hparent
        split at hissue
        · -- a parent that has been found is the choice question, and this raises no issue
          rename_i found hfound
          have hfoundMem : found ∈ document.sequence := by
            rw [hrow]
            exact List.mem_append_left _ (List.mem_of_find?_eq_some hfound)
          have hfoundId : (found.id == parent) = true :=
            List.find?_some (p := fun question : Question => question.id == parent) hfound
          rw [beq_iff_eq] at hfoundId
          obtain rfl := eq_of_id_eq hids hfoundMem hchoice (hfoundId.trans hid.symm)
          rw [if_pos hkind] at hissue
          cases hissue
        · rw [if_pos (isSome_locate?_iff.2 ⟨choice, hchoice, hid⟩), Option.some.injEq] at hissue
          exact ⟨_, _, hissue.symm⟩
      · refine ih ?_ hissue
        rw [hrow, List.append_assoc, List.singleton_append]

/-- If the questions of a document are those of a linked row in another order, a parent can only
stand too late. -/
theorem eq_parentNotEarlier_of_mem_checkDependencies {row : List Question} (h : Linked row)
    (hperm : row.Perm document.sequence) {issue : DependencyIssue}
    (hissue : issue ∈ document.checkDependencies) :
    ∃ question parent, issue = .parentNotEarlier question parent := by
  refine eq_parentNotEarlier_of_mem_issuesAfter ((hperm.map _).nodup_iff.1 h.ids)
    (fun question hquestion => ?_) (List.nil_append _).symm hissue
  obtain ⟨before, after, hrow⟩ := List.append_of_mem (hperm.mem_iff.2 hquestion)
  refine (h.links before question after hrow).mono fun other hother => hperm.mem_iff.1 ?_
  rw [hrow]
  exact List.mem_append_left _ hother

end Document

/-! ### Changes of one question -/

variable {earlier later : List Question} {question : Question}

theorem Linked.id_ne (h : Linked (earlier ++ question :: later)) {other : Question}
    (hother : other ∈ earlier ++ later) : other.id ≠ question.id := by
  have hids := h.ids
  rw [List.map_append, List.map_cons, List.nodup_middle, List.nodup_cons, ← List.map_append] at hids
  exact fun hid => hids.1 (hid ▸ List.mem_map_of_mem hother)

/-- A new question fits into a linked row wherever its parent stands before it. -/
theorem linked_insert_iff (h : Linked (earlier ++ later)) :
    Linked (earlier ++ question :: later) ↔
      (∀ other ∈ earlier ++ later, other.id ≠ question.id) ∧ question.LinksInto earlier := by
  constructor
  · intro hnew
    exact ⟨fun other => hnew.id_ne, (linked_cut_iff.1 hnew).2.2.1⟩
  · rintro ⟨hid, hlinks⟩
    have hrow := h.links
    rw [linkedAfter_append, List.nil_append] at hrow
    refine linked_cut_iff.2 ⟨?_, hrow.1, hlinks, hrow.2.mono (List.subset_append_left _ _)⟩
    rw [List.map_append, List.map_cons, List.nodup_middle, List.nodup_cons, ← List.map_append]
    refine ⟨fun hmem => ?_, h.ids⟩
    obtain ⟨other, hother, heq⟩ := List.mem_map.1 hmem
    exact hid other hother heq

/-- A parent link that does not go to a question is kept when this question is taken out. -/
theorem Linked.link_without (h : Linked (earlier ++ question :: later))
    {before after : List Question} {other : Question}
    (hrow : earlier ++ later = before ++ other :: after) {parent : QuestionId}
    (hparent : other.parent = some parent) (hne : parent ≠ question.id) :
    ∃ found ∈ before, found.id = parent ∧ found.answerType.canBeParent = true := by
  rcases List.append_eq_append_iff.1 hrow with ⟨more, rfl, rfl⟩ | ⟨more, rfl, hlater⟩
  · -- the other question stands after the one that is taken out
    obtain ⟨found, hfound, hid, hchoice⟩ :=
      h.links (earlier ++ question :: more) other after (by simp) parent hparent
    simp only [List.nil_append, List.mem_append, List.mem_cons] at hfound
    rcases hfound with hfound | rfl | hfound
    · exact ⟨found, List.mem_append_left _ hfound, hid, hchoice⟩
    · exact absurd hid.symm hne
    · exact ⟨found, List.mem_append_right _ hfound, hid, hchoice⟩
  · cases more with
    | nil =>
        -- the other question comes right after it
        rw [List.nil_append] at hlater
        obtain rfl := hlater
        obtain ⟨found, hfound, hid, hchoice⟩ :=
          h.links (before ++ [question]) other after (by simp) parent hparent
        simp only [List.nil_append, List.mem_append, List.mem_singleton] at hfound
        rcases hfound with hfound | rfl
        · exact ⟨found, hfound, hid, hchoice⟩
        · exact absurd hid.symm hne
    | cons head more =>
        obtain ⟨rfl, -⟩ := List.cons.inj hlater
        exact h.links before other (more ++ question :: later) (by simp) parent hparent

theorem id_unlink (id : QuestionId) (question : Question) :
    (Document.unlink id question).id = question.id := by
  unfold Document.unlink
  split <;> rfl

theorem answerType_unlink (id : QuestionId) (question : Question) :
    (Document.unlink id question).answerType = question.answerType := by
  unfold Document.unlink
  split <;> rfl

theorem parent_unlink_eq_some_iff {id parent : QuestionId} {question : Question} :
    (Document.unlink id question).parent = some parent ↔
      question.parent = some parent ∧ parent ≠ id := by
  unfold Document.unlink
  split
  · rename_i h
    simp [h, eq_comm]
  · rename_i h
    constructor
    · exact fun hparent => ⟨hparent, fun hid => h (hid ▸ hparent)⟩
    · exact fun hparent => hparent.1

/-- A question can be taken out of a linked row if its dependents are freed. -/
theorem Linked.unlink (h : Linked (earlier ++ question :: later)) :
    Linked ((earlier ++ later).map (Document.unlink question.id)) := by
  constructor
  · rw [List.map_map]
    have hsame : ((·.id) ∘ Document.unlink question.id) = (·.id) := funext (id_unlink question.id)
    rw [hsame]
    have hids := h.ids
    rw [List.map_append, List.map_cons, List.nodup_middle, List.nodup_cons,
      ← List.map_append] at hids
    exact hids.2
  · intro before other after hrow parent hparent
    obtain ⟨before, rest, hsplit, rfl, hrest⟩ := List.map_eq_append_iff.1 hrow
    obtain ⟨other, after, rfl, rfl, rfl⟩ := List.map_eq_cons_iff.1 hrest
    obtain ⟨hparent, hne⟩ := parent_unlink_eq_some_iff.1 hparent
    obtain ⟨found, hfound, hid, hchoice⟩ := h.link_without hsplit hparent hne
    refine ⟨Document.unlink question.id found, List.mem_map_of_mem hfound, ?_, ?_⟩
    · rw [id_unlink, hid]
    · rw [answerType_unlink, hchoice]

/-- In a linked row other questions depend on choice questions only. -/
theorem Linked.canBeParent {questions : List Question} (h : Linked questions)
    (hquestion : question ∈ questions) {other : Question} (hother : other ∈ questions)
    (hparent : other.parent = some question.id) : question.answerType.canBeParent = true := by
  obtain ⟨before, after, rfl⟩ := List.append_of_mem hother
  obtain ⟨found, hfound, hid, hchoice⟩ := h.links before other after rfl _ hparent
  obtain rfl := eq_of_id_eq h.ids (List.mem_append_left _ hfound) hquestion hid
  exact hchoice

/-- In a linked row only later questions depend on a question. -/
theorem Linked.mem_later_of_parent (h : Linked (earlier ++ question :: later)) {other : Question}
    (hother : other ∈ earlier ++ question :: later) (hparent : other.parent = some question.id) :
    other ∈ later := by
  have hearlier {found : Question} (hfound : found ∈ earlier) : found.id ≠ question.id :=
    h.id_ne (List.mem_append_left _ hfound)
  obtain ⟨-, hlinks, hquestion, -⟩ := linked_cut_iff.1 h
  rcases List.mem_append.1 hother with hother | hother
  · obtain ⟨before, after, rfl⟩ := List.append_of_mem hother
    obtain ⟨found, hfound, hid, -⟩ := hlinks before other after rfl _ hparent
    exact absurd hid (hearlier (List.mem_append_left _ hfound))
  · rcases List.mem_cons.1 hother with rfl | hother
    · obtain ⟨found, hfound, hid, -⟩ := hquestion _ hparent
      exact absurd hid (hearlier hfound)
    · exact hother

/-- A question of a linked row can be replaced by one with its identifier whose parent stands before
it and that is a choice question if others depend on it. -/
theorem linked_replace_iff (h : Linked (earlier ++ question :: later)) {other : Question}
    (hid : other.id = question.id) :
    Linked (earlier ++ other :: later) ↔ other.LinksInto earlier ∧
      ((∃ dependent ∈ earlier ++ question :: later, dependent.parent = some question.id) →
        other.answerType.canBeParent = true) := by
  obtain ⟨hids, hearlier, -, hlater⟩ := linked_cut_iff.1 h
  constructor
  · intro hnew
    obtain ⟨-, -, hlinks, hnewLater⟩ := linked_cut_iff.1 hnew
    refine ⟨hlinks, ?_⟩
    rintro ⟨dependent, hdependent, hparent⟩
    -- the dependent comes later, where only the new question has the identifier
    obtain ⟨before, after, rfl⟩ := List.append_of_mem (h.mem_later_of_parent hdependent hparent)
    obtain ⟨found, hfound, hfoundId, hchoice⟩ := hnewLater before dependent after rfl _ hparent
    simp only [List.mem_append, List.mem_singleton] at hfound
    rcases hfound with (hfound | rfl) | hfound
    · exact absurd hfoundId (h.id_ne (List.mem_append_left _ hfound))
    · exact hchoice
    · refine absurd hfoundId (h.id_ne (List.mem_append_right _ ?_))
      exact List.mem_append_left _ hfound
  · rintro ⟨hlinks, hdependents⟩
    refine linked_cut_iff.2 ⟨?_, hearlier, hlinks, fun before dependent after hrow parent hparent =>
      ?_⟩
    · rw [List.map_append, List.map_cons] at hids ⊢
      rwa [hid]
    · obtain ⟨found, hfound, hfoundId, hchoice⟩ := hlater before dependent after hrow parent hparent
      simp only [List.mem_append, List.mem_singleton] at hfound ⊢
      rcases hfound with (hfound | rfl) | hfound
      · exact ⟨found, .inl (.inl hfound), hfoundId, hchoice⟩
      · refine ⟨other, .inl (.inr rfl), hid.trans hfoundId, hdependents ⟨dependent, ?_, ?_⟩⟩
        · rw [hrow]
          simp
        · rw [hparent, hfoundId]
      · exact ⟨found, .inr hfound, hfoundId, hchoice⟩

/-- A question of a linked row can be moved to any place between its parent and its dependents. -/
theorem linked_move_iff (h : Linked (earlier ++ question :: later)) {before after : List Question}
    (hrow : earlier ++ later = before ++ after) :
    Linked (before ++ question :: after) ↔
      (∀ parent, question.parent = some parent → ∃ found ∈ before, found.id = parent) ∧
        ∀ other ∈ before, other.parent ≠ some question.id := by
  -- the questions stay the same, so their identifiers stay distinct
  have hperm : (earlier ++ question :: later).Perm (before ++ question :: after) := by
    refine List.perm_middle.trans (List.Perm.trans ?_ List.perm_middle.symm)
    rw [hrow]
  constructor
  · intro hnew
    refine ⟨fun parent hparent => ?_, fun other hother hparent => ?_⟩
    · obtain ⟨found, hfound, hid, -⟩ := (linked_cut_iff.1 hnew).2.2.1 parent hparent
      exact ⟨found, hfound, hid⟩
    · have hafter := hnew.mem_later_of_parent (List.mem_append_left _ hother) hparent
      have hids := hnew.ids
      rw [List.map_append, List.nodup_append] at hids
      exact hids.2.2 _ (List.mem_map_of_mem hother) _
        (List.mem_map_of_mem (List.mem_cons_of_mem _ hafter)) rfl
  · rintro ⟨hparents, hdependents⟩
    obtain ⟨hids, -, hlinks, -⟩ := linked_cut_iff.1 h
    refine linked_cut_iff.2 ⟨(hperm.map _).nodup_iff.1 hids, ?_, ?_, ?_⟩
    · intro first other rest hbefore parent hparent
      have hne : parent ≠ question.id := by
        rintro rfl
        refine hdependents other ?_ hparent
        rw [hbefore]
        exact List.mem_append_right _ List.mem_cons_self
      have hwhole : earlier ++ later = first ++ other :: (rest ++ after) := by
        rw [hrow, hbefore, List.append_assoc, List.cons_append]
      exact h.link_without hwhole hparent hne
    · -- the parent is the choice question that it has been before
      intro parent hparent
      obtain ⟨found, hfound, hid⟩ := hparents parent hparent
      obtain ⟨choice, hchoice, hchoiceId, hkind⟩ := hlinks parent hparent
      have hmem : found ∈ earlier ++ question :: later :=
        hperm.mem_iff.2 (List.mem_append_left _ hfound)
      obtain rfl := eq_of_id_eq hids hmem (List.mem_append_left _ hchoice)
        (hid.trans hchoiceId.symm)
      exact ⟨found, hfound, hid, hkind⟩
    · intro first other rest hafter parent hparent
      by_cases hne : parent = question.id
      · subst hne
        have hmem : other ∈ earlier ++ question :: later := by
          refine hperm.mem_iff.2 (List.mem_append_right _ (List.mem_cons_of_mem _ ?_))
          rw [hafter]
          exact List.mem_append_right _ List.mem_cons_self
        exact ⟨question, by simp, rfl, h.canBeParent (by simp) hmem hparent⟩
      · have hwhole : earlier ++ later = (before ++ first) ++ other :: rest := by
          rw [hrow, hafter, List.append_assoc]
        obtain ⟨found, hfound, hid, hchoice⟩ := h.link_without hwhole hparent hne
        refine ⟨found, ?_, hid, hchoice⟩
        rw [List.append_assoc]
        rcases List.mem_append.1 hfound with hfound | hfound
        · exact List.mem_append_left _ hfound
        · exact List.mem_append_right _ (List.mem_append_right _ hfound)

end Questionnaire
