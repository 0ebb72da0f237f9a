import Questionnaire.Proofs.Document.Edit
import Questionnaire.Proofs.Document.Import

/-! # Saving edited documents

The editor looks after the parent links of a document and keeps whatever else is demanded of an
imported document (`Document.Intact`), except that the questions it is given may be incomplete. So
an edited document is imported again as it is exactly if its questions are complete
(`Document.edited_saved`), as they are if no incomplete question has been written into it
(`Edit.Writes`). -/

namespace Questionnaire

/-- A question is what some JSON is decoded as. -/
def Question.Decoded (question : Question) : Prop :=
  ∃ origin node, Question.decode origin node = .ok question

theorem Question.Decoded.writable {question : Question} (h : question.Decoded) :
    question.Writable := by
  obtain ⟨origin, node, hdecode⟩ := h
  exact Question.yields_decode origin node question hdecode

namespace Edit

/-- The question that an edit is given, if any, is what some JSON is decoded as. -/
def Decoded : Edit → Prop
  | .update _ question | .insert _ _ question => question.Decoded
  | .remove _ | .move _ _ _ | .setRepeatable _ _ => True

/-- The question that an edit writes into a document, if any, has a property. -/
def Writes (holds : Question → Prop) : Edit → Prop
  | .update id question => holds { question with id }
  | .insert _ _ question => holds question
  | .remove _ | .move _ _ _ | .setRepeatable _ _ => True

theorem Decoded.writes {edit : Edit} (h : edit.Decoded) : edit.Writes Question.Writable := by
  cases edit with
  | update id question =>
      have hwritable := Question.Decoded.writable h
      exact ⟨⟨hwritable.1.options, hwritable.1.validation⟩, hwritable.2⟩
  | insert key position question => exact Question.Decoded.writable h
  | remove | move | setRepeatable => trivial

end Edit

theorem Question.Writable.unlink {question : Question} (h : question.Writable) (id : QuestionId) :
    (Document.unlink id question).Writable := by
  unfold Document.unlink
  split
  · exact ⟨⟨h.1.options, h.1.validation⟩, h.2⟩
  · exact h

theorem Question.Complete.unlink {question : Question} (h : question.Complete) (id : QuestionId) :
    (Document.unlink id question).Complete := by
  unfold Document.unlink
  split
  · exact ⟨h.named, h.subNamed, h.flat⟩
  · exact h

namespace Document

variable {document next : Document} {edit : Edit}

/-! ### The questions of an edited document -/

section questions

variable {holds : Question → Prop} {key : GroupKey} {group : Group}

theorem forall_mem_modifyQuestions (hgroup : document.group? key = some group)
    (h : ∀ question ∈ document.sequence, holds question)
    {change : List Question → List Question}
    (hchange : (∀ question ∈ group.questions, holds question) →
      ∀ question ∈ change group.questions, holds question) :
    ∀ question ∈ (document.modifyQuestions key change).sequence, holds question := by
  obtain ⟨before, after, -, -, hquestions, hsequence⟩ := exists_questions_modifyQuestions hgroup
  rw [sequence, hquestions, List.map_append, List.map_append, map_snd_questionsAt] at h
  rw [hsequence]
  simp only [List.forall_mem_append] at h ⊢
  exact ⟨h.1, hchange h.2.1, h.2.2⟩

theorem forall_mem_withInserted (hgroup : document.group? key = some group)
    (h : ∀ question ∈ document.sequence, holds question) {position : Nat}
    (hposition : position ≤ group.questions.length) {question : Question}
    (hquestion : holds question) :
    ∀ other ∈ (document.withInserted key position question).sequence, holds other := by
  refine forall_mem_modifyQuestions hgroup h fun hold other hother => ?_
  rcases (List.mem_insertIdx hposition).1 hother with rfl | hother
  · exact hquestion
  · exact hold other hother

theorem forall_mem_takeOut {coords : QuestionCoords} {question : Question}
    (hquestion : document.question? coords = some question)
    (h : ∀ question ∈ document.sequence, holds question) :
    ∀ other ∈ (document.takeOut coords).sequence, holds other := by
  obtain ⟨group, hgroup, -⟩ := question?_eq_some_iff.1 hquestion
  exact forall_mem_modifyQuestions hgroup h fun hold other hother =>
    hold other (List.mem_of_mem_eraseIdx hother)

/-- Every question of an edited document was there before, has lost its parent or has been written
by the edit. -/
theorem forall_mem_of_edit (hnext : document.edit edit = .ok next)
    (hunlink : ∀ id question, holds question → holds (unlink id question))
    (hwrites : edit.Writes holds) (h : ∀ question ∈ document.sequence, holds question) :
    ∀ question ∈ next.sequence, holds question := by
  cases edit with
  | update id question =>
      obtain ⟨coords, hlocate, rfl, -⟩ := updateQuestion_eq_ok_iff.1 hnext
      obtain ⟨found, hfound, -⟩ := exists_question?_of_locate? hlocate
      obtain ⟨group, hgroup, -⟩ := question?_eq_some_iff.1 hfound
      refine forall_mem_modifyQuestions hgroup h fun hold other hother => ?_
      rcases List.mem_or_eq_of_mem_set hother with hother | rfl
      · exact hold other hother
      · exact hwrites
  | insert key position question =>
      obtain ⟨group, hgroup, hposition, rfl, -⟩ := place_eq_ok_iff.1 hnext
      exact forall_mem_withInserted hgroup h hposition hwrites
  | remove id =>
      obtain ⟨coords, hlocate, rfl, -⟩ := removeQuestion_eq_ok_iff.1 hnext
      obtain ⟨found, hfound, -⟩ := exists_question?_of_locate? hlocate
      rw [sequence_mapQuestions, List.forall_mem_map]
      exact fun question hquestion =>
        hunlink id question (forall_mem_takeOut hfound h question hquestion)
  | move id key position =>
      obtain ⟨coords, question, group, -, hquestion, -, hgroup, hposition, rfl, -⟩ :=
        moveQuestion_eq_ok_iff.1 hnext
      have hmoved : holds question :=
        h question (List.mem_map.2 ⟨_, mem_questions_iff.2 hquestion, rfl⟩)
      exact forall_mem_withInserted hgroup (forall_mem_takeOut hquestion h) hposition hmoved
  | setRepeatable key repeatable =>
      obtain ⟨group, hgroup, rfl⟩ := setRepeatable_eq_ok_iff.1 hnext
      rwa [sequence_setRepeatable hgroup]

end questions

/-! ### The pages of an edited document -/

/-- The numbers of the pages, in their order. -/
def pageNumbers (document : Document) : List Nat := document.pages.map (·.pageNumber)

theorem pageNumbers_modifyGroup (document : Document) (key : GroupKey) (change : Group → Group) :
    (document.modifyGroup key change).pageNumbers = document.pageNumbers := by
  apply List.ext_getElem?
  intro p
  simp only [pageNumbers, modifyGroup, List.getElem?_map, List.getElem?_modify]
  cases document.pages[p]? with
  | none => rfl
  | some page =>
      simp only [Option.map_some, Option.map_eq_map]
      split <;> rfl

theorem pageNumbers_mapQuestions (document : Document) (change : Question → Question) :
    (document.mapQuestions change).pageNumbers = document.pageNumbers := by
  rw [pageNumbers, mapQuestions, List.map_map]
  rfl

/-- An edit changes neither the name of a document nor the numbers of its pages. -/
theorem frame_of_edit (hnext : document.edit edit = .ok next) :
    next.sourceName = document.sourceName ∧ next.pageNumbers = document.pageNumbers := by
  cases edit with
  | update id question =>
      obtain ⟨coords, -, rfl, -⟩ := updateQuestion_eq_ok_iff.1 hnext
      exact ⟨rfl, pageNumbers_modifyGroup _ _ _⟩
  | insert key position question =>
      obtain ⟨group, -, -, rfl, -⟩ := place_eq_ok_iff.1 hnext
      exact ⟨rfl, pageNumbers_modifyGroup _ _ _⟩
  | remove id =>
      obtain ⟨coords, -, rfl, -⟩ := removeQuestion_eq_ok_iff.1 hnext
      exact ⟨rfl, (pageNumbers_mapQuestions _ _).trans (pageNumbers_modifyGroup _ _ _)⟩
  | move id key position =>
      obtain ⟨coords, question, group, -, -, -, -, -, rfl, -⟩ := moveQuestion_eq_ok_iff.1 hnext
      exact ⟨rfl, (pageNumbers_modifyGroup _ _ _).trans (pageNumbers_modifyGroup _ _ _)⟩
  | setRepeatable key repeatable =>
      obtain ⟨group, -, rfl⟩ := setRepeatable_eq_ok_iff.1 hnext
      exact ⟨rfl, pageNumbers_modifyGroup _ _ _⟩

/-- An edit keeps what is demanded of an imported document beside the completeness of its
questions. -/
theorem Intact.of_edit (h : document.Intact) (hdecoded : edit.Decoded)
    (hnext : document.edit edit = .ok next) : next.Intact := by
  obtain ⟨-, hpages⟩ := frame_of_edit hnext
  have hwritable : ∀ question ∈ next.sequence, question.Writable :=
    forall_mem_of_edit hnext (fun id question h => h.unlink id) hdecoded.writes
      (writable_of_mem_sequence h.writable)
  have hnumber {page : Page} (hpage : page ∈ next.pages) :
      ∃ old ∈ document.pages, old.pageNumber = page.pageNumber := by
    have hmem : page.pageNumber ∈ next.pageNumbers := List.mem_map_of_mem hpage
    rwa [hpages, pageNumbers, List.mem_map] at hmem
  refine ⟨?_, ?_, ?_⟩
  · have hcheck := checkDependencies_eq_nil_iff.2 h.linked
    exact checkDependencies_eq_nil_iff.1 (checkDependencies_of_edit hcheck hnext)
  · intro page hpage
    obtain ⟨old, hold, hsame⟩ := hnumber hpage
    refine ⟨hsame ▸ (h.writable old hold).pageNumber, ?_⟩
    intro part hpart group hgroup question hquestion
    exact hwritable question
      (mem_sequence_iff.2 ⟨page, hpage, part, hpart, group, hgroup, hquestion⟩)
  · intro page hpage
    obtain ⟨old, hold, hsame⟩ := hnumber hpage
    exact hsame ▸ h.numbered old hold

/-! ### Saving -/

/-- **An edited document is imported again as it is exactly if its questions are complete**, and
they are if no incomplete question has been written into it. -/
theorem edited_saved {bytes : List UInt8} {fallback : String} {final : Document}
    {edits : List Edit} (himport : importBytes bytes fallback = .ok document)
    (hdecoded : ∀ edit ∈ edits, edit.Decoded)
    (hrun : edits.foldlM Document.edit document = .ok final) :
    final.Intact ∧
      ((∀ edit ∈ edits, edit.Writes Question.Complete) → final.Sound) ∧
      ((∀ x ∈ final.numbers, x.ReadsBack) →
        (importBytes final.saved fallback = .ok final ↔
          ∀ question ∈ final.sequence, question.Complete)) := by
  have hsound := sound_of_importBytes himport
  -- the name is kept as well, for a blank one comes back only if it is the fallback
  have hkept (state : Document) (edit : Edit) (next : Document) (hedit : edit ∈ edits)
      (h : state.Intact ∧ state.sourceName = document.sourceName)
      (hnext : state.edit edit = .ok next) :
      next.Intact ∧ next.sourceName = document.sourceName :=
    ⟨h.1.of_edit (hdecoded edit hedit) hnext, (frame_of_edit hnext).1.trans h.2⟩
  obtain ⟨hintact, hname⟩ := foldlM_induction hkept ⟨hsound.toIntact, rfl⟩ hrun
  refine ⟨hintact, fun hwrites => ⟨hintact, ?_⟩, fun hnumbers => ⟨?_, fun hcomplete => ?_⟩⟩
  · have hcomplete (state : Document) (edit : Edit) (next : Document) (hedit : edit ∈ edits)
        (h : ∀ question ∈ state.sequence, question.Complete)
        (hnext : state.edit edit = .ok next) : ∀ question ∈ next.sequence, question.Complete :=
      forall_mem_of_edit hnext (fun id question h => h.unlink id) (hwrites edit hedit) h
    exact foldlM_induction hcomplete hsound.complete hrun
  · exact fun h => (sound_of_importBytes h).complete
  · refine Sound.importBytes_saved ⟨hintact, hcomplete⟩ hnumbers ?_
    rw [hname]
    exact eq_sourceName_of_blank himport

/-- A question for the veterinarian. -/
def vetQuestion : Question := { Question.blank with id := "vet", text := "Vet?" }

/-- The pets are no longer asked for, but the veterinarian is, in a group that may be repeated. -/
def petEdits : List Edit := [.insert ⟨0, 0, 0⟩ none vetQuestion, .move "vet" ⟨0, 0, 0⟩ 0,
  .remove "pets", .setRepeatable ⟨0, 0, 0⟩ true]

/-- The document after these edits. -/
def petEdited : Document :=
  ⟨"pets.pdf", [⟨"", 1, [⟨"", [⟨"", true, [vetQuestion,
    { Question.blank with
      id := "q-0-0-0-1", text := "How many?"
      validation := some { ValidationSpec.empty with min := some (.ofNat 1) }
      subQuestions := [{ Question.blank with id := "q-0-0-0-1-sub0", text := "Dogs" }] }]⟩]⟩]⟩]⟩

/-- The edited document is saved and imported again. -/
theorem edited_saved_petEdits :
    petEdits.foldlM Document.edit petDocument = .ok petEdited ∧ petEdited.Sound ∧
      importBytes petEdited.saved "form.json" = .ok petEdited := by
  have hrun : petEdits.foldlM Document.edit petDocument = .ok petEdited := rfl
  have hdecoded : ∀ edit ∈ petEdits, edit.Decoded := by
    simp only [petEdits, List.forall_mem_cons]
    exact ⟨⟨.text, .ofJson vetQuestion.toJson, rfl⟩, trivial, trivial, trivial,
      List.forall_mem_nil _⟩
  have hwrites : ∀ edit ∈ petEdits, edit.Writes Question.Complete := by
    simp only [petEdits, List.forall_mem_cons]
    exact ⟨⟨by decide, List.forall_mem_nil _, List.forall_mem_nil _⟩, trivial, trivial, trivial,
      List.forall_mem_nil _⟩
  obtain ⟨-, hsound, hsaved⟩ := edited_saved importBytes_petText hdecoded hrun
  have hcomplete := (hsound hwrites).complete
  exact ⟨hrun, hsound hwrites, (hsaved readsBack_petDocument).2 hcomplete⟩

/-- A form with one group of some questions. -/
def formWith (questions : List Question) : Document :=
  ⟨"pets.pdf", [⟨"", 1, [⟨"", [⟨"", false, questions⟩]⟩]⟩]⟩

theorem saved_formWith {questions : List Question} {levels : Nat}
    (h : ∀ question ∈ questions, question.toJson.Legible levels)
    (hlevels : levels + 8 < Json.nestingLimit) (fallback : String) :
    importBytes (formWith questions).saved fallback =
      importSource ⟨.ofJson (formWith questions).toJson, false⟩ fallback := by
  have hnumber : ∀ page ∈ (formWith questions).pages, page.pageNumber < Page.numberLimit :=
    List.forall_mem_singleton.2 (show 1 < Page.numberLimit by decide)
  have hsequence : (formWith questions).sequence = questions := by
    simp [sequence_eq_flatMap, formWith]
  have hlegible : (formWith questions).toJson.Legible (levels + 8) :=
    legible_toJson hnumber (by rwa [hsequence])
  rw [importBytes, saved, Json.readBytes_compact hlegible hlevels]

/-- A question without an identifier. -/
def unnamed : Question := { Question.blank with text := "Pets?" }

/-- A question whose sub-question has a sub-question. -/
def nested : Question :=
  { Question.blank with
    id := "pets", text := "Pets?"
    subQuestions := [{ Question.blank with
      id := "dogs", text := "Dogs?"
      subQuestions := [{ Question.blank with id := "names", text := "Names?" }] }] }

/-- The editor inserts a question without an identifier, which comes back with one, and a question
with a nested sub-question, which keeps the document from coming back. -/
theorem edited_unsaved :
    importBytes (formWith []).saved "form.json" = .ok (formWith []) ∧
      unnamed.Decoded ∧ nested.Decoded ∧
      (formWith []).edit (.insert ⟨0, 0, 0⟩ none unnamed) = .ok (formWith [unnamed]) ∧
      importBytes (formWith [unnamed]).saved "form.json" =
        .ok (formWith [{ unnamed with id := "q-0-0-0-0" }]) ∧
      (formWith []).edit (.insert ⟨0, 0, 0⟩ none nested) = .ok (formWith [nested]) ∧
      importBytes (formWith [nested]).saved "form.json" =
        .error (.refused (.format (.nestedSubQuestions 0 "pets"))) := by
  have hplain (question : Question) (hoptions : question.options = [])
      (hvalidation : question.validation = none) (levels : Nat)
      (hsubs : ∀ sub ∈ question.subQuestions, sub.toJson.Legible (levels + 1)) :
      question.toJson.Legible (levels + 3) := by
    have hnone (spec : ValidationSpec) : question.validation ≠ some spec := by simp [hvalidation]
    refine Question.legible_of_subs ⟨?_, fun spec h => absurd h (hnone spec)⟩ levels
      (fun spec h => absurd h (hnone spec)) hsubs
    rw [hoptions]
    exact List.forall_mem_nil _
  have hunnamed : ∀ question ∈ [unnamed], question.toJson.Legible 3 :=
    List.forall_mem_singleton.2 (hplain unnamed rfl rfl 0 (List.forall_mem_nil _))
  have hnested : ∀ question ∈ [nested], question.toJson.Legible 7 := by
    refine List.forall_mem_singleton.2 (hplain nested rfl rfl 4 (List.forall_mem_singleton.2 ?_))
    refine hplain _ rfl rfl 2 (List.forall_mem_singleton.2 ?_)
    exact hplain _ rfl rfl 0 (List.forall_mem_nil _)
  refine ⟨?_, ⟨.text, .ofJson unnamed.toJson, rfl⟩, ⟨.text, .ofJson nested.toJson, rfl⟩, rfl, ?_,
    rfl, ?_⟩
  · rw [@saved_formWith [] 0 (List.forall_mem_nil _) (by decide)]
    rfl
  · rw [saved_formWith hunnamed (by decide)]
    rfl
  · rw [saved_formWith hnested (by decide)]
    rfl

end Document

end Questionnaire
