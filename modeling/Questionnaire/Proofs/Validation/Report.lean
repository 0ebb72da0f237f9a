import Questionnaire.Proofs.Address.Extension
import Questionnaire.Proofs.Document.Dependency
import Questionnaire.Proofs.Disclosure
import Questionnaire.Proofs.Mirror

/-! # The visibility map and the report

The visibility map decides every question at the live instances of its group, by the answer of its
parent (`Document.showsAt`); in a consistent document no parent is missing
(`Document.visibility_eq_of_checkDependencies`). The report lists what is wrong with the fields that
are shown and with their sub-questions (`Document.Reports`), by increasing coordinates
(`Document.pairwise_reportEntries`). `Document.views_exact` puts this together. -/

namespace Questionnaire

/-! ### Places of answers -/

/-- The place of the answer to a question, or to one of its sub-questions, at an instance. -/
structure PartKey where
  field : FieldKey
  sub : Option Nat
  deriving DecidableEq

namespace PartKey

/-- The key of the answer. -/
def text (key : PartKey) : String := key.field.extended ⟨key.sub, none⟩

/-- The coordinates of the answer, outermost first; a question comes before its sub-questions. -/
def coordinates (key : PartKey) : List Nat := key.field.coordinates ++ key.sub.toList

theorem text_injective : Function.Injective text := by
  rintro ⟨field, sub⟩ ⟨field', sub'⟩ h
  obtain ⟨hfield, hextension⟩ := FieldKey.extended_inj.1 h
  exact congrArg₂ mk hfield (KeyExtension.mk.inj hextension).1

end PartKey

/-- Between lists of one length the order is not changed by what follows them. -/
theorem append_lt_append {a b : List Nat} (h : a < b) (hlength : a.length = b.length)
    (c d : List Nat) : a ++ c < b ++ d := by
  induction a generalizing b with
  | nil =>
      obtain rfl := List.length_eq_zero_iff.1 hlength.symm
      exact absurd h (List.lt_irrefl _)
  | cons m a ih =>
      obtain ⟨n, b, rfl⟩ := List.exists_cons_of_length_eq_add_one hlength.symm
      rw [List.cons_lt_cons_iff] at h
      rw [List.cons_append, List.cons_append, List.cons_lt_cons_iff]
      exact h.imp_right fun hab => ⟨hab.1, ih hab.2 (Nat.succ.inj hlength)⟩

theorem append_lt_append_left (a : List Nat) {b c : List Nat} (h : b < c) : a ++ b < a ++ c := by
  induction a with
  | nil => exact h
  | cons n a ih => exact List.cons_lt_cons_iff.2 (.inr ⟨rfl, ih⟩)

/-- The question itself or one of its sub-questions. -/
def Question.part? (question : Question) : Option Nat → Option Question
  | none => some question
  | some n => question.subQuestions[n]?

/-! ### What is wrong with a field -/

/-- What is wrong with the answer at a place. -/
def partEntry (answers : AnswerStore) (key : PartKey) (part : Question) :
    Option (PartKey × String) :=
  (part.validateAnswer (answers.get? key.text)).map (key, ·)

/-- What is wrong with the answers of a field and of its sub-questions, by place. -/
def partEntries (answers : AnswerStore) (field : FieldKey) (question : Question) :
    List (PartKey × String) :=
  (partEntry answers ⟨field, none⟩ question).toList
    ++ question.subQuestions.zipIdx.filterMap fun (sub, n) =>
      partEntry answers ⟨field, some n⟩ sub

section Parts

variable {answers : AnswerStore} {field : FieldKey} {question : Question}

theorem map_partEntry (answers : AnswerStore) (key : PartKey) (part : Question) :
    (partEntry answers key part).map (fun entry => (entry.1.text, entry.2)) =
      entryFor answers key.text part := by
  rw [partEntry, entryFor, Option.map_map]
  rfl

theorem entriesFor_eq_map_partEntries (answers : AnswerStore) (field : FieldKey)
    (question : Question) : entriesFor answers field question =
      (partEntries answers field question).map fun entry => (entry.1.text, entry.2) := by
  rw [partEntries, List.map_append, List.map_filterMap, ← Option.toList_map, map_partEntry]
  simp only [map_partEntry]
  rfl

theorem partEntry_eq_some_iff {key key' : PartKey} {part : Question} {message : String} :
    partEntry answers key part = some (key', message) ↔
      key = key' ∧ part.validateAnswer (answers.get? key.text) = some message := by
  simp only [partEntry, Option.map_eq_some_iff, Prod.mk.injEq]
  constructor
  · rintro ⟨_, hmessage, rfl, rfl⟩
    exact ⟨rfl, hmessage⟩
  · rintro ⟨rfl, hmessage⟩
    exact ⟨message, hmessage, rfl, rfl⟩

theorem key_of_partEntry {key : PartKey} {part : Question} {entry : PartKey × String}
    (h : partEntry answers key part = some entry) : key = entry.1 :=
  (partEntry_eq_some_iff.1 h).1

theorem mem_partEntries_iff {key : PartKey} {message : String} :
    (key, message) ∈ partEntries answers field question ↔ key.field = field ∧
      ∃ part, question.part? key.sub = some part ∧
        part.validateAnswer (answers.get? key.text) = some message := by
  obtain ⟨field', sub⟩ := key
  simp only [partEntries, List.mem_append, Option.mem_toList, partEntry_eq_some_iff,
    List.mem_filterMap, Prod.exists, List.mem_zipIdx_iff_getElem?, PartKey.mk.injEq]
  constructor
  · rintro (⟨⟨rfl, rfl⟩, hmessage⟩ | ⟨part, n, hpart, ⟨rfl, rfl⟩, hmessage⟩)
    · exact ⟨rfl, question, rfl, hmessage⟩
    · exact ⟨rfl, part, hpart, hmessage⟩
  · rintro ⟨rfl, part, hpart, hmessage⟩
    cases sub with
    | none =>
        obtain rfl := Option.some.inj hpart
        exact .inl ⟨⟨rfl, rfl⟩, hmessage⟩
    | some n => exact .inr ⟨part, n, hpart, ⟨rfl, rfl⟩, hmessage⟩

theorem field_of_mem_partEntries {entry : PartKey × String}
    (h : entry ∈ partEntries answers field question) : entry.1.field = field :=
  (mem_partEntries_iff.1 h).1

/-- What is wrong with a field comes before what is wrong with its sub-questions in turn. -/
theorem pairwise_partEntries (answers : AnswerStore) (field : FieldKey) (question : Question) :
    (partEntries answers field question).Pairwise fun a b =>
      a.1.coordinates < b.1.coordinates := by
  refine List.pairwise_append.2 ⟨?_, ?_, fun a ha b hb => ?_⟩
  · cases partEntry answers ⟨field, none⟩ question with
    | none => exact .nil
    | some entry => exact List.pairwise_singleton _ _
  · refine List.Pairwise.filterMap _ (fun x y hxy a ha b hb => ?_)
      (pairwise_zipIdx question.subQuestions)
    rw [← key_of_partEntry (Option.mem_def.1 ha), ← key_of_partEntry (Option.mem_def.1 hb)]
    exact append_lt_append_left _ (List.cons_lt_cons_iff.2 (.inl hxy))
  · obtain ⟨x, -, hb⟩ := List.mem_filterMap.1 hb
    rw [← key_of_partEntry (Option.mem_toList.1 ha), ← key_of_partEntry hb]
    exact append_lt_append_left _ (List.nil_lt_cons _ _)

end Parts

namespace Document

variable {document : Document} {state : FormState}

/-! ### What is shown -/

/-- Whether a question is shown at a field. With a parent link the answer of the first question
that has the parent's identifier decides, at the same instance if both stand in one group and else
at the first one; without such a question the mode decides. -/
def showsAt (document : Document) (answers : AnswerStore) (mode : VisibilityMode) (key : FieldKey)
    (question : Question) : Bool :=
  match question.parent with
  | none => true
  | some id =>
    match document.locate? id with
    | some parent => question.isVisible (answers.field?
        (parent.fieldKey (if parent.groupKey = key.groupKey then key.instanceIndex else 0)))
    | none => mode = .visible

theorem showsAt_of_parent {question : Question} {id : QuestionId}
    (hparent : question.parent = some id) (answers : AnswerStore) (mode : VisibilityMode)
    (key : FieldKey) : document.showsAt answers mode key question =
      match document.locate? id with
      | some parent => question.isVisible (answers.field?
          (parent.fieldKey (if parent.groupKey = key.groupKey then key.instanceIndex else 0)))
      | none => mode = .visible := by
  rw [showsAt, hparent]

theorem questionVisible_eq_showsAt (answers : AnswerStore) (mode : VisibilityMode)
    (key : FieldKey) (question : Question) :
    questionVisible document.index answers mode key.coords question key.instanceIndex =
      document.showsAt answers mode key question := by
  cases hparent : question.parent with
  | none => simp [questionVisible, showsAt, Question.isConditional, hparent]
  | some id =>
      rw [showsAt_of_parent hparent, locate?_eq, questionVisible, parentFieldKey?, hparent,
        Question.isConditional, hparent]
      cases hfound : document.index.get? id with
      | none => simp only [Option.bind_eq_bind, Option.bind_some, hfound]; rfl
      | some entry => simp only [Option.bind_eq_bind, Option.bind_some, hfound]; rfl

/-- How often a group is filled in: as often as it is counted if it is repeatable, and else
once. -/
theorem liveInstances_eq_ite {key : GroupKey} {group : Group} {instances : InstanceTable}
    (hgroup : document.group? key = some group) : document.liveInstances instances key =
      if group.repeatable = true then instances.count key else 1 := by
  rw [liveInstances, hgroup]

/-- The visibility map decides every question at each live instance of its group. -/
theorem get?_visibility_eq_some_iff {mode : VisibilityMode} {key : FieldKey} {shown : Bool} :
    (document.visibility state mode).get? key = some shown ↔ ∃ group question,
      document.group? key.groupKey = some group ∧
        group.questions[key.questionIndex]? = some question ∧
        key.instanceIndex < (if group.repeatable = true then state.instances.count key.groupKey
          else 1) ∧
        shown = document.showsAt state.answers mode key question := by
  rw [get?_visibility, Option.ite_none_right_eq_some, Option.map_eq_some_iff]
  constructor
  · rintro ⟨hlive, question, hquestion, rfl⟩
    obtain ⟨group, hgroup, hget⟩ := question?_eq_some_iff.1 hquestion
    exact ⟨group, question, hgroup, hget, liveInstances_eq_ite hgroup ▸ hlive,
      questionVisible_eq_showsAt _ _ _ _⟩
  · rintro ⟨group, question, hgroup, hget, hlive, rfl⟩
    exact ⟨liveInstances_eq_ite hgroup ▸ hlive, question,
      question?_eq_some_iff.2 ⟨group, hgroup, hget⟩, questionVisible_eq_showsAt _ _ _ _⟩

/-- In a consistent document every parent is found, so the mode does not matter. -/
theorem visibility_eq_of_checkDependencies (h : document.checkDependencies = [])
    (mode mode' : VisibilityMode) :
    document.visibility state mode = document.visibility state mode' := by
  have hlinked := checkDependencies_eq_nil_iff.1 h
  refine Table.ext_get? fun key => ?_
  rw [get?_visibility, get?_visibility]
  split
  · refine Option.map_congr fun question hquestion => ?_
    rw [questionVisible_eq_showsAt, questionVisible_eq_showsAt]
    cases hparent : question.parent with
    | none => rw [showsAt, showsAt, hparent]
    | some id =>
        have hlocated : (document.locate? id).isSome = true := by
          -- the links of a consistent document lead to questions before them
          obtain ⟨before, after, hrow⟩ := List.append_of_mem (List.mem_map_of_mem (f := (·.2))
            (mem_questions_iff.2 hquestion))
          obtain ⟨found, hfound, hid, -⟩ := hlinked.links before question after hrow id hparent
          refine isSome_locate?_iff.2 ⟨found, ?_, hid⟩
          rw [sequence, hrow]
          exact List.mem_append_left _ hfound
        obtain ⟨parent, hlocate⟩ := Option.isSome_iff_exists.1 hlocated
        rw [showsAt_of_parent hparent, showsAt_of_parent hparent, hlocate]
  · rfl

/-! ### What is reported -/

/-- Something is wrong with the answer at a place: the field is shown, and the rules of the question
or sub-question there say so. -/
def Reports (document : Document) (state : FormState) (key : PartKey) (message : String) : Prop :=
  (document.visibility state .visible).get? key.field = some true ∧
    ∃ question part, document.question? key.field.coords = some question ∧
      question.part? key.sub = some part ∧
        part.validateAnswer (state.answers.get? key.text) = some message

/-- What is wrong with the answers of the form, by place. -/
def reportEntries (document : Document) (state : FormState) : List (PartKey × String) :=
  (document.visibleFields state).flatMap fun (field, question) =>
    partEntries state.answers field question

theorem validate_eq_map_reportEntries (document : Document) (state : FormState) :
    document.validate state =
      (document.reportEntries state).map fun entry => (entry.1.text, entry.2) := by
  rw [validate, reportEntries, List.map_flatMap]
  exact List.flatMap_congr fun entry _ => entriesFor_eq_map_partEntries _ _ _

theorem mem_reportEntries_iff {key : PartKey} {message : String} :
    (key, message) ∈ document.reportEntries state ↔ document.Reports state key message := by
  simp only [reportEntries, List.mem_flatMap, Prod.exists, mem_visibleFields_iff,
    mem_partEntries_iff]
  constructor
  · rintro ⟨_, question, ⟨hquestion, hshown⟩, rfl, part, hpart, hmessage⟩
    exact ⟨hshown, question, part, hquestion, hpart, hmessage⟩
  · rintro ⟨hshown, question, part, hquestion, hpart, hmessage⟩
    exact ⟨key.field, question, ⟨hquestion, hshown⟩, rfl, part, hpart, hmessage⟩

theorem pairwise_liveFields (document : Document) (instances : InstanceTable) :
    (document.liveFields instances).Pairwise fun a b => a.1.coordinates < b.1.coordinates := by
  unfold liveFields
  refine List.pairwise_flatMap.2 ⟨fun entry _ => ?_, ?_⟩
  · refine List.pairwise_map.2 (List.pairwise_lt_range.imp fun hlt => ?_)
    exact append_lt_append_left entry.1.coordinates (List.cons_lt_cons_iff.2 (.inl hlt))
  · refine (pairwise_questions document).imp fun {a b} hlt x hx y hy => ?_
    obtain ⟨i, -, rfl⟩ := List.mem_map.1 hx
    obtain ⟨j, -, rfl⟩ := List.mem_map.1 hy
    exact append_lt_append hlt rfl [i] [j]

theorem pairwise_visibleFields (document : Document) (state : FormState) :
    (document.visibleFields state).Pairwise fun a b => a.1.coordinates < b.1.coordinates := by
  refine List.Pairwise.filterMap _ (fun x y hxy a ha b hb => ?_)
    (pairwise_liveFields document state.instances)
  obtain ⟨-, ha⟩ := Option.ite_none_right_eq_some.1 (Option.mem_def.1 ha)
  obtain ⟨-, hb⟩ := Option.ite_none_right_eq_some.1 (Option.mem_def.1 hb)
  rw [← Option.some.inj ha, ← Option.some.inj hb]
  exact hxy

/-- The report is in the order of the places. -/
theorem pairwise_reportEntries (document : Document) (state : FormState) :
    (document.reportEntries state).Pairwise fun a b => a.1.coordinates < b.1.coordinates := by
  refine List.pairwise_flatMap.2 ⟨fun entry _ => pairwise_partEntries _ _ _, ?_⟩
  refine (pairwise_visibleFields document state).imp fun {a b} hlt x hx y hy => ?_
  rw [← field_of_mem_partEntries hx, ← field_of_mem_partEntries hy] at hlt
  exact append_lt_append hlt rfl _ _

theorem nodup_map_text_reportEntries (document : Document) (state : FormState) :
    ((document.reportEntries state).map (·.1.text)).Nodup := by
  refine List.pairwise_map.2 ((pairwise_reportEntries document state).imp fun {a b} hlt heq => ?_)
  rw [PartKey.text_injective heq] at hlt
  exact List.lt_irrefl _ hlt

/-- **The visibility map and the report are exact.** The map has an entry for every question at each
live instance of its group and for nothing else, and it is the same in both modes if the document
is consistent. The report lists by increasing coordinates, and under no key twice, what is wrong
with the fields that are shown and with their sub-questions, and it is valid if there is nothing
to list. -/
theorem views_exact (document : Document) (state : FormState) :
    (∀ (mode : VisibilityMode) (key : FieldKey) (shown : Bool),
      (document.visibility state mode).get? key = some shown ↔ ∃ group question,
        document.group? key.groupKey = some group ∧
          group.questions[key.questionIndex]? = some question ∧
          key.instanceIndex < (if group.repeatable = true then state.instances.count key.groupKey
            else 1) ∧
          shown = document.showsAt state.answers mode key question) ∧
    (document.checkDependencies = [] →
      document.visibility state .visible = document.visibility state .hidden) ∧
    (∃ entries : List (PartKey × String),
      document.validate state = entries.map (fun entry => (entry.1.text, entry.2)) ∧
      (entries.map (·.1.text)).Nodup ∧
      entries.Pairwise (fun a b => a.1.coordinates < b.1.coordinates) ∧
      ∀ key message, (key, message) ∈ entries ↔ document.Reports state key message) ∧
    ((document.validate state).isValid = true ↔
      ∀ key message, ¬ document.Reports state key message) := by
  refine ⟨fun mode key shown => get?_visibility_eq_some_iff,
    fun h => visibility_eq_of_checkDependencies h _ _,
    ⟨document.reportEntries state, validate_eq_map_reportEntries _ _,
      nodup_map_text_reportEntries _ _, pairwise_reportEntries _ _,
      fun key message => mem_reportEntries_iff⟩, ?_⟩
  rw [ValidationReport.isValid, List.isEmpty_iff, validate_eq_map_reportEntries,
    List.map_eq_nil_iff, List.eq_nil_iff_forall_not_mem, Prod.forall]
  simp only [mem_reportEntries_iff]

/-- The pets come before the question that depends on them. -/
theorem views_exact_petSurvey : petSurvey.checkDependencies = [] ∧
    petSurvey.visibility ⟨noPets, .empty⟩ .visible =
      petSurvey.visibility ⟨noPets, .empty⟩ .hidden := by
  have hconsistent : petSurvey.checkDependencies = [] := by decide
  exact ⟨hconsistent, (views_exact petSurvey ⟨noPets, .empty⟩).2.1 hconsistent⟩

end Document

end Questionnaire
