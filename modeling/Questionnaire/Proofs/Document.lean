import Questionnaire.Document.Basic
import Questionnaire.Proofs.Address
import Questionnaire.Proofs.Table

/-! # Enumerating and looking up

The groups and questions that a document lists are those that a lookup by coordinates finds
(`Document.mem_groups_iff`, `Document.mem_questions_iff`), and the index finds the first question
with an identifier (`Document.get?_index`). A document fits (`Document.Fits`) if all its positions
are 64-bit numbers. -/

namespace Questionnaire

namespace Document

variable {document : Document}

theorem mem_groups_iff {key : GroupKey} {group : Group} :
    (key, group) ∈ document.groups ↔ document.group? key = some group := by
  simp only [groups, group?, List.mem_flatMap, List.mem_map, Prod.exists, Prod.mk.injEq,
    List.mem_zipIdx_iff_getElem?, Option.bind_eq_bind, Option.bind_eq_some_iff]
  constructor
  · rintro ⟨page, p, hpage, part, s, hpart, found, g, hgroup, rfl, rfl⟩
    exact ⟨page, hpage, part, hpart, hgroup⟩
  · rintro ⟨page, hpage, part, hpart, hgroup⟩
    exact ⟨page, _, hpage, part, _, hpart, group, _, hgroup, rfl, rfl⟩

theorem mem_questionsAt_iff {key : GroupKey} {group : Group} {coords : QuestionCoords}
    {question : Question} :
    (coords, question) ∈ questionsAt key group ↔
      coords.groupKey = key ∧ group.questions[coords.questionIndex]? = some question := by
  simp only [questionsAt, List.mem_map, Prod.exists, Prod.mk.injEq, List.mem_zipIdx_iff_getElem?]
  constructor
  · rintro ⟨found, q, hquestion, rfl, rfl⟩
    exact ⟨rfl, hquestion⟩
  · rintro ⟨rfl, hquestion⟩
    exact ⟨question, _, hquestion, rfl, rfl⟩

theorem question?_eq_some_iff {coords : QuestionCoords} {question : Question} :
    document.question? coords = some question ↔ ∃ group,
      document.group? coords.groupKey = some group ∧
        group.questions[coords.questionIndex]? = some question := by
  simp [question?, Option.bind_eq_some_iff]

theorem mem_questions_iff {coords : QuestionCoords} {question : Question} :
    (coords, question) ∈ document.questions ↔ document.question? coords = some question := by
  simp only [questions, List.mem_flatMap, Prod.exists, mem_groups_iff, mem_questionsAt_iff,
    question?_eq_some_iff]
  constructor
  · rintro ⟨key, group, hgroup, rfl, hquestion⟩
    exact ⟨group, hgroup, hquestion⟩
  · rintro ⟨group, hgroup, hquestion⟩
    exact ⟨_, group, hgroup, rfl, hquestion⟩

/-! ### The index -/

theorem get?_foldl_add (entries : List (QuestionCoords × Question)) (index : QuestionIndex)
    (id : QuestionId) :
    (entries.foldl QuestionIndex.add index).get? id
      = (index.get? id).or (entries.find? fun entry => entry.2.id == id) := by
  induction entries generalizing index with
  | nil => simp
  | cons entry entries ih =>
      rw [List.foldl_cons, ih, QuestionIndex.add, List.find?_cons]
      by_cases htaken : index.contains entry.2.id = true
      · rw [if_pos htaken]
        by_cases hid : entry.2.id = id
        · subst hid
          rw [Table.contains, Option.isSome_iff_exists] at htaken
          obtain ⟨found, hfound⟩ := htaken
          simp [hfound]
        · rw [beq_eq_false_iff_ne.2 hid]
      · rw [if_neg htaken, Table.get?_insert]
        by_cases hid : entry.2.id = id
        · subst hid
          rw [Table.contains, Bool.not_eq_true, Option.isSome_eq_false_iff,
            Option.isNone_iff_eq_none] at htaken
          simp [htaken]
        · rw [if_neg (Ne.symm hid), beq_eq_false_iff_ne.2 hid]

/-- The index finds the first question with the identifier. -/
theorem get?_index (id : QuestionId) :
    document.index.get? id = document.questions.find? fun entry => entry.2.id == id := by
  rw [index, get?_foldl_add]
  simp

theorem locate?_eq (id : QuestionId) :
    document.locate? id = (document.index.get? id).map (·.1) := by
  rw [get?_index, locate?]

theorem question?_of_get?_index {id : QuestionId} {entry : QuestionCoords × Question}
    (h : document.index.get? id = some entry) : document.question? entry.1 = some entry.2 := by
  rw [get?_index] at h
  exact mem_questions_iff.1 (List.mem_of_find?_eq_some h)

/-! ### Positions as 64-bit numbers -/

/-- Every position in the document is a 64-bit number. -/
def Fits (document : Document) : Prop :=
  ∀ entry ∈ document.groups, entry.1.Fits ∧ entry.2.questions.length ≤ wordLimit

instance (document : Document) : Decidable document.Fits :=
  inferInstanceAs (Decidable (∀ entry ∈ document.groups,
    entry.1.Fits ∧ entry.2.questions.length ≤ wordLimit))

theorem Fits.fieldKey (h : document.Fits) {coords : QuestionCoords} {question : Question}
    (hquestion : document.question? coords = some question) {i : Nat} (hi : i < wordLimit) :
    (coords.fieldKey i).Fits := by
  obtain ⟨group, hgroup, hget⟩ := question?_eq_some_iff.1 hquestion
  obtain ⟨hkey, hlength⟩ := h (coords.groupKey, group) (mem_groups_iff.2 hgroup)
  obtain ⟨hlt, -⟩ := List.getElem?_eq_some_iff.1 hget
  exact FieldKey.fits_iff.2 ⟨hkey, Nat.lt_of_lt_of_le hlt hlength, hi⟩

end Document

end Questionnaire
