import Questionnaire.Proofs.Submission.Slug
import Questionnaire.Proofs.Visibility
import Questionnaire.Submission.Interactive

/-! # What the interactive submission records

The submission has the shape of the document (`Document.shape_interactiveSubmission`), and each
instance of a group records, in document order, exactly the questions that are asked there:
`Document.askedQuestions` lists them with the keys of their answers. Every question is entered
under a slug of its own, so that none takes the place of an earlier one (`Records.enterQuestion`),
however the texts of the questions collide.

`InteractiveSubmission.Faithful` says all of this of a submission, and
`Document.interactiveSubmission_faithful` that it holds of every one. -/

namespace Questionnaire

theorem enterNamed_of_notMem {α : Type} {entries : List (String × α)} {name : String} (value : α)
    (h : name ∉ entries.map (·.1)) :
    enterNamed entries name value = entries ++ [(name, value)] := by
  have hany : (entries.any (·.1 == name)) = false := by
    rw [List.any_eq_false]
    intro entry hentry hname
    exact h (List.mem_map.2 ⟨entry, hentry, beq_iff_eq.1 hname⟩)
  rw [enterNamed, hany]
  rfl

/-! ### The questions of one instance -/

/-- The keys and questions that an instance of a group asks for, in document order: every question
that takes an answer and is shown there, and after it each of its sub-questions that takes one. -/
def Document.askedQuestions (document : Document) (state : FormState) (key : GroupKey)
    (group : Group) (i : Nat) : List (String × Question) :=
  (questionsAt key group).flatMap fun (coords, question) =>
    if question.answerType.isAnswerable
        && (document.visibility state .visible).get? (coords.fieldKey i) == some true then
      ((coords.fieldKey i).text, question) ::
        (question.subQuestions.zipIdx.filter (·.1.answerType.isAnswerable)).map
          fun (sub, n) => ((coords.fieldKey i).sub n, sub)
    else []

/-- The entries are those of the questions asked, in their order and each under a slug of its
own. -/
structure Records (answers : AnswerStore) (asked : List (String × Question))
    (entries : List (String × AnswerEntry)) : Prop where
  slugs : (entries.map (·.1)).Nodup
  entries : entries.map (·.2) = asked.map fun (key, question) => answerEntry answers key question

namespace Records

variable {answers : AnswerStore} {asked : List (String × Question)}
  {entries : List (String × AnswerEntry)}

theorem nil : Records answers [] [] := ⟨List.nodup_nil, rfl⟩

/-- One more question takes no other's place. -/
theorem enterQuestion (h : Records answers asked entries) (position : Nat) (key : String)
    (question : Question) :
    Records answers (asked ++ [(key, question)])
      (Questionnaire.enterQuestion answers position entries key question) := by
  have hfresh := uniqueSlug_notMem (entries.map (·.1)) (baseSlug question.text position)
  rw [Questionnaire.enterQuestion, enterNamed_of_notMem _ hfresh]
  constructor
  · rw [List.map_append, List.nodup_append]
    refine ⟨h.slugs, List.nodup_singleton _, fun slug hslug other hother heq => ?_⟩
    rw [heq, List.mem_singleton.1 hother] at hslug
    exact hfresh hslug
  · rw [List.map_append, List.map_append, h.entries]
    rfl

theorem foldl_enterQuestion (position : Nat) (more : List (String × Question)) :
    ∀ {asked : List (String × Question)} {entries : List (String × AnswerEntry)},
      Records answers asked entries →
      Records answers (asked ++ more) (more.foldl (fun entries (key, question) =>
        Questionnaire.enterQuestion answers position entries key question) entries) := by
  induction more with
  | nil =>
      intro asked entries h
      simpa using h
  | cons head more ih =>
      intro asked entries h
      have := ih (h.enterQuestion position head.1 head.2)
      rwa [List.append_assoc, List.singleton_append] at this

/-- The questions of a group that are shown, each with its sub-questions, take no other's place. -/
theorem foldl_shown (shown : QuestionCoords → Question → Bool) (i : Nat)
    (questions : List (QuestionCoords × Question)) :
    ∀ {asked : List (String × Question)} {entries : List (String × AnswerEntry)},
      Records answers asked entries →
      Records answers
        (asked ++ questions.flatMap fun (coords, question) =>
          if shown coords question then enteredQuestions (coords.fieldKey i) question else [])
        (questions.foldl (fun entries (coords, question) =>
          if shown coords question then
            (enteredQuestions (coords.fieldKey i) question).foldl (fun entries (key, question) =>
              Questionnaire.enterQuestion answers coords.questionIndex entries key question) entries
          else entries) entries) := by
  induction questions with
  | nil =>
      intro asked entries h
      simpa using h
  | cons head rest ih =>
      intro asked entries h
      obtain ⟨coords, question⟩ := head
      rw [List.flatMap_cons, List.foldl_cons, ← List.append_assoc]
      refine ih ?_
      dsimp only
      split
      · exact h.foldl_enterQuestion coords.questionIndex _
      · simpa using h

end Records

theorem enteredQuestions_eq (key : FieldKey) (question : Question) :
    enteredQuestions key question = (key.text, question) ::
      (question.subQuestions.zipIdx.filter (·.1.answerType.isAnswerable)).map
        fun (sub, n) => (key.sub n, sub) := by
  rw [enteredQuestions, ← List.filterMap_eq_map', List.filterMap_filter]

namespace Document

variable {document : Document} {state : FormState}

/-- Where a question stands in a group, the visibility map shows it as `questionVisible` says. -/
theorem get?_visibility_eq_some_true_iff {key : GroupKey} {group : Group} {i : Nat}
    (hgroup : document.group? key = some group)
    (hi : i < document.liveInstances state.instances key) {coords : QuestionCoords}
    {question : Question} (hquestion : (coords, question) ∈ questionsAt key group) :
    (document.visibility state .visible).get? (coords.fieldKey i) = some true ↔
      questionVisible document.index state.answers .visible coords question i = true := by
  obtain ⟨rfl, hget⟩ := mem_questionsAt_iff.1 hquestion
  have hfound : document.question? coords = some question :=
    question?_eq_some_iff.2 ⟨group, hgroup, hget⟩
  rw [get?_visibility, QuestionCoords.instanceIndex_fieldKey, QuestionCoords.groupKey_fieldKey,
    QuestionCoords.coords_fieldKey, if_pos hi, hfound, Option.map_some, Option.some.injEq]

theorem askedQuestions_eq {key : GroupKey} {group : Group} {i : Nat}
    (hgroup : document.group? key = some group)
    (hi : i < document.liveInstances state.instances key) :
    document.askedQuestions state key group i =
      (questionsAt key group).flatMap fun (coords, question) =>
        if question.answerType.isAnswerable
            && questionVisible document.index state.answers .visible coords question i then
          enteredQuestions (coords.fieldKey i) question
        else [] := by
  refine List.flatMap_congr fun entry hentry => ?_
  obtain ⟨coords, question⟩ := entry
  have hvisible : ((document.visibility state .visible).get? (coords.fieldKey i) == some true) =
      questionVisible document.index state.answers .visible coords question i := by
    rw [Bool.eq_iff_iff, beq_iff_eq]
    exact get?_visibility_eq_some_true_iff hgroup hi hentry
  simp only [hvisible, enteredQuestions_eq]

/-- An instance records exactly the questions asked there. -/
theorem instanceEntry_records {key : GroupKey} {group : Group} {i : Nat}
    (hgroup : document.group? key = some group)
    (hi : i < document.liveInstances state.instances key) :
    Records state.answers (document.askedQuestions state key group i)
      (instanceEntry state document.index key group i).questions := by
  rw [askedQuestions_eq hgroup hi]
  exact Records.nil.foldl_shown (fun coords question => question.answerType.isAnswerable
    && questionVisible document.index state.answers .visible coords question i) i _

end Document

/-! ### The whole submission -/

theorem map_fst_zipIdx {α β : Type} (entries : List α) (f : α → β) :
    entries.zipIdx.map (fun entry => f entry.1) = entries.map f := by
  have := congrArg (List.map f) (List.zipIdx_map_fst 0 entries)
  rwa [List.map_map] at this

theorem map_snd_zipIdx {α β : Type} (entries : List α) (f : Nat → β) :
    entries.zipIdx.map (fun entry => f entry.2) = (List.range entries.length).map f := by
  have := congrArg (List.map f) (List.zipIdx_map_snd 0 entries)
  rwa [List.map_map, ← List.range_eq_range'] at this

/-- The titles of the document's parts, with the groups that are repeatable. -/
def Document.shape (document : Document) : List (String × List (String × List (String × Bool))) :=
  document.pages.map fun page => (page.title, page.sections.map fun part =>
    (part.title, part.groups.map fun group => (group.title, group.repeatable)))

namespace InteractiveSubmission

/-- The titles of the submission's parts, with the groups that are repeatable. -/
def shape (submission : InteractiveSubmission) :
    List (String × List (String × List (String × Bool))) :=
  submission.pages.map fun page => (page.title, page.sections.map fun part =>
    (part.title, part.groups.map fun group => (group.title, group.repeatable)))

/-- The entry of the group at a key. -/
def group? (submission : InteractiveSubmission) (key : GroupKey) : Option GroupEntry := do
  let page ← submission.pages[key.pageIndex]?
  let part ← page.sections[key.sectionIndex]?
  part.groups[key.groupIndex]?

end InteractiveSubmission

/-- What an instance of a group has to record: its number, and of the questions asked there, in
their order, the texts and the answers that are stored under their keys, each question under a
slug that no other one has. -/
structure InstanceEntry.Faithful (document : Document) (state : FormState) (key : GroupKey)
    (group : Group) (i : Nat) (entry : InstanceEntry) : Prop where
  number : entry.number = i + 1
  slugs : (entry.questions.map (·.1)).Nodup
  texts : entry.questions.map (·.2.question) =
    (document.askedQuestions state key group i).map (·.2.text)
  answers : entry.questions.map (·.2.answer) =
    (document.askedQuestions state key group i).map fun (key, _) =>
      (state.answers.get? key).elim .null AnswerValue.submitted

/-- What a submission has to record: the pages of the document under their numbers, their sections
and groups in the same places, and every group at each of its live instances. -/
structure InteractiveSubmission.Faithful (document : Document) (state : FormState)
    (submission : InteractiveSubmission) : Prop where
  pages : ∃ entries, submission.toJson.field? "formData" = some (.object entries) ∧
    entries.map (·.1) =
      (List.range document.pages.length).map (fun p => numberedName "page" (p + 1)) ∧
    entries.map (·.2) = submission.pages.map PageEntry.toJson
  shape : submission.shape = document.shape
  groups : ∀ key group, document.group? key = some group →
    ∃ entry, submission.group? key = some entry ∧
      entry.instances.length = document.liveInstances state.instances key ∧
      ∀ (i : Nat) (found : InstanceEntry), entry.instances[i]? = some found →
        found.Faithful document state key group i

namespace Document

variable {document : Document} {state : FormState}

theorem instanceEntry_faithful {key : GroupKey} {group : Group} {i : Nat}
    (hgroup : document.group? key = some group)
    (hi : i < document.liveInstances state.instances key) :
    (instanceEntry state document.index key group i).Faithful document state key group i := by
  have hrecords := instanceEntry_records hgroup hi
  have hmap {β : Type} (f : AnswerEntry → β) :
      (instanceEntry state document.index key group i).questions.map (f ·.2) =
        (document.askedQuestions state key group i).map fun (key, question) =>
          f (answerEntry state.answers key question) := by
    have := congrArg (List.map f) hrecords.entries
    rwa [List.map_map, List.map_map] at this
  exact ⟨rfl, hrecords.slugs, hmap (·.question), hmap (·.answer)⟩

theorem shape_interactiveSubmission (document : Document) (state : FormState)
    (exportedAt : String) :
    (document.interactiveSubmission state exportedAt).shape = document.shape := by
  have hgroups (part : Section) := map_fst_zipIdx part.groups fun group =>
    (group.title, group.repeatable)
  have hsections (page : Page) := map_fst_zipIdx page.sections fun part =>
    (part.title, part.groups.map fun group => (group.title, group.repeatable))
  simp only [InteractiveSubmission.shape, interactiveSubmission, List.map_map, Function.comp_def,
    groupEntry, hgroups, hsections]
  exact map_fst_zipIdx document.pages fun page => (page.title, page.sections.map fun part =>
    (part.title, part.groups.map fun group => (group.title, group.repeatable)))

/-- The groups of the document have their entries at the same places, and there are no others. -/
theorem group?_interactiveSubmission (document : Document) (state : FormState)
    (exportedAt : String) (key : GroupKey) :
    (document.interactiveSubmission state exportedAt).group? key =
      (document.group? key).map (document.groupEntry state document.index key) := by
  simp only [InteractiveSubmission.group?, interactiveSubmission, group?, List.getElem?_map,
    List.getElem?_zipIdx, Option.bind_eq_bind, Option.bind_map, Option.map_map, Nat.zero_add,
    Option.map_bind, Function.comp_def]

/-- **The submission loses and invents nothing**: it has the pages, sections and groups of the
document and the live instances of every group, and each of them records exactly the questions
asked there under slugs of their own. The slug of a question never falls back to a taken one: a
taken slug is numbered with the least number from two on that makes it new. -/
theorem interactiveSubmission_faithful (document : Document) (state : FormState)
    (exportedAt : String) :
    (document.interactiveSubmission state exportedAt).Faithful document state ∧
      ∀ (taken : List String) (text : String) (position : Nat), baseSlug text position ∈ taken →
        ∃ n, 2 ≤ n ∧
          uniqueSlug taken (baseSlug text position) = numberedSlug (baseSlug text position) n ∧
          numberedSlug (baseSlug text position) n ∉ taken ∧
          ∀ m, 2 ≤ m → m < n → numberedSlug (baseSlug text position) m ∈ taken := by
  refine ⟨⟨?_, shape_interactiveSubmission document state exportedAt, ?_⟩,
    fun taken text position => exists_uniqueSlug_eq⟩
  · refine ⟨_, rfl, ?_, ?_⟩
    · rw [List.map_map]
      have hnames := map_snd_zipIdx (document.interactiveSubmission state exportedAt).pages
        fun p => numberedName "page" (p + 1)
      rwa [interactiveSubmission, List.length_map, List.length_zipIdx] at hnames
    · rw [List.map_map]
      exact map_fst_zipIdx _ PageEntry.toJson
  · intro key group hgroup
    refine ⟨document.groupEntry state document.index key group, ?_, ?_, ?_⟩
    · rw [group?_interactiveSubmission, hgroup, Option.map_some]
    · rw [groupEntry, List.length_map, List.length_range]
    · intro i found hfound
      rw [groupEntry, List.getElem?_map, Option.map_eq_some_iff] at hfound
      obtain ⟨j, hj, rfl⟩ := hfound
      obtain ⟨hlt, rfl⟩ := List.getElem?_eq_some_iff.1 hj
      rw [List.length_range] at hlt
      rw [List.getElem_range]
      exact instanceEntry_faithful hgroup hlt

end Document

end Questionnaire
