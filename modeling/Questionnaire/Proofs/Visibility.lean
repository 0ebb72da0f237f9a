import Questionnaire.Proofs.Document
import Questionnaire.Visibility

/-! # The fields of a form

The live fields of a document are its questions at the live instances of their groups
(`Document.mem_liveFields_iff`). The visibility map has an entry for each of them and for nothing
else (`Document.get?_visibility`), and the visible fields are those that it maps to true
(`Document.mem_visibleFields_iff`). -/

namespace Questionnaire.Document

variable {document : Document} {state : FormState} {mode : VisibilityMode}

theorem liveInstances_of_repeatable {group : Group} {key : GroupKey} {instances : InstanceTable}
    (hgroup : document.group? key = some group) (hrep : group.repeatable = true) :
    document.liveInstances instances key = instances.count key := by
  simp [liveInstances, hgroup, hrep]

/-- There is a live instance of every group. -/
theorem liveInstances_pos (document : Document) (instances : InstanceTable) (key : GroupKey) :
    0 < document.liveInstances instances key := by
  unfold liveInstances
  split
  · split
    · exact Nat.le_max_left _ _
    · exact Nat.zero_lt_one
  · exact Nat.zero_lt_one

theorem liveInstances_congr {instances former : InstanceTable} {key : GroupKey}
    (h : instances.get? key = former.get? key) :
    document.liveInstances instances key = document.liveInstances former key := by
  simp [liveInstances, InstanceTable.count, h]

theorem mem_liveFields_iff {instances : InstanceTable} {key : FieldKey} {coords : QuestionCoords}
    {question : Question} :
    (key, coords, question) ∈ document.liveFields instances ↔
      key.coords = coords ∧ document.question? coords = some question ∧
        key.instanceIndex < document.liveInstances instances key.groupKey := by
  simp only [liveFields, List.mem_flatMap, List.mem_map, List.mem_range, Prod.exists,
    Prod.mk.injEq, mem_questions_iff]
  constructor
  · rintro ⟨_, _, hquestion, i, hi, rfl, rfl, rfl⟩
    exact ⟨rfl, hquestion, hi⟩
  · rintro ⟨rfl, hquestion, hi⟩
    exact ⟨_, _, hquestion, _, hi, rfl, rfl, rfl⟩

/-- The visibility map decides exactly the fields of the questions at their live instances. -/
theorem get?_visibility (key : FieldKey) :
    (document.visibility state mode).get? key =
      if key.instanceIndex < document.liveInstances state.instances key.groupKey then
        (document.question? key.coords).map fun question =>
          questionVisible document.index state.answers mode key.coords question key.instanceIndex
      else none := by
  ext shown
  rw [visibility, Table.get?_ofList_eq_some_iff]
  · simp only [List.mem_map, Prod.exists, Prod.mk.injEq, mem_liveFields_iff]
    split
    · rename_i hlive
      simp only [Option.map_eq_some_iff]
      constructor
      · rintro ⟨_, _, question, ⟨rfl, hquestion, -⟩, rfl, hshown⟩
        exact ⟨question, hquestion, hshown⟩
      · rintro ⟨question, hquestion, hshown⟩
        exact ⟨key, _, question, ⟨rfl, hquestion, hlive⟩, rfl, hshown⟩
    · rename_i hlive
      simp only [reduceCtorEq, iff_false]
      rintro ⟨_, _, question, ⟨rfl, -, hlt⟩, rfl, -⟩
      exact hlive hlt
  · -- the coordinates of a field determine the question that decides it
    intro a ha b hb hab
    simp only [List.mem_map, Prod.exists, mem_liveFields_iff] at ha hb
    obtain ⟨key, _, question, ⟨rfl, hquestion, -⟩, rfl⟩ := ha
    obtain ⟨_, _, question', ⟨rfl, hquestion', -⟩, rfl⟩ := hb
    obtain rfl : key = _ := hab
    rw [hquestion, Option.some.injEq] at hquestion'
    rw [hquestion']

/-- The visible fields are those that the visibility map shows. -/
theorem mem_visibleFields_iff {key : FieldKey} {question : Question} :
    (key, question) ∈ document.visibleFields state ↔
      document.question? key.coords = some question ∧
        (document.visibility state .visible).get? key = some true := by
  simp only [visibleFields, List.mem_filterMap, Prod.exists, mem_liveFields_iff, get?_visibility]
  constructor
  · rintro ⟨_, _, _, ⟨rfl, hquestion, hlive⟩, hshown⟩
    split at hshown
    · rename_i hvisible
      obtain ⟨rfl, rfl⟩ := Prod.mk.inj (Option.some.inj hshown)
      refine ⟨hquestion, ?_⟩
      rw [if_pos hlive, hquestion, Option.map_some, hvisible]
    · cases hshown
  · rintro ⟨hquestion, hshown⟩
    rw [hquestion, Option.map_some] at hshown
    split at hshown
    · rename_i hlive
      refine ⟨key, key.coords, question, ⟨rfl, hquestion, hlive⟩, ?_⟩
      rw [if_pos (Option.some.inj hshown)]
    · cases hshown

theorem lt_liveInstances_of_mem_visibleFields {key : FieldKey} {question : Question}
    (h : (key, question) ∈ document.visibleFields state) :
    key.instanceIndex < document.liveInstances state.instances key.groupKey := by
  have hshown := (mem_visibleFields_iff.1 h).2
  rw [get?_visibility] at hshown
  split at hshown
  · assumption
  · cases hshown

/-- The visible fields of a group with a 64-bit count have 64-bit coordinates. -/
theorem Fits.visibleFields (h : document.Fits) {group : GroupKey}
    (hlive : document.liveInstances state.instances group < wordLimit) (key : FieldKey)
    (question : Question) (hvisible : (key, question) ∈ document.visibleFields state)
    (hgroup : key.groupKey = group) : key.Fits := by
  have hlt := lt_liveInstances_of_mem_visibleFields hvisible
  rw [hgroup] at hlt
  exact h.fieldKey (mem_visibleFields_iff.1 hvisible).1 (Nat.lt_trans hlt hlive)

end Questionnaire.Document
