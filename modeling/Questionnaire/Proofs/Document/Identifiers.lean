import Mathlib.Data.List.Duplicate
import Questionnaire.Proofs.Document.Import

/-! # Assigned identifiers

A question without an identifier is named after its place when its document is completed
(`Document.map_id_normalise`), and no two places give the same name
(`Document.assignedId_injective`). But a question keeps its identifier wherever it is moved to, and
so an identifier that is given may be that of another question's place (`Document.Clashes`). These
are the identifiers that stand twice in a document whose given ones are distinct, and an import
reports them (`Document.normalise_ids`). -/

namespace Questionnaire

/-- A value is taken twice in a row without repetitions if two different entries have it. -/
theorem duplicate_map_iff {α β : Type} {f : α → β} {entries : List α} (h : entries.Nodup) {b : β} :
    List.Duplicate b (entries.map f) ↔
      ∃ x ∈ entries, ∃ y ∈ entries, x ≠ y ∧ f x = b ∧ f y = b := by
  induction entries with
  | nil => simp
  | cons entry entries ih =>
      obtain ⟨hnew, hrest⟩ := List.nodup_cons.1 h
      rw [List.map_cons, List.duplicate_cons_iff, ih hrest, List.mem_map]
      constructor
      · rintro (⟨hb, y, hy, hyb⟩ | ⟨x, hx, y, hy, hne, hxb, hyb⟩)
        · refine ⟨entry, List.mem_cons_self, y, List.mem_cons_of_mem _ hy, ?_, hb, hyb⟩
          rintro rfl
          exact hnew hy
        · exact ⟨x, List.mem_cons_of_mem _ hx, y, List.mem_cons_of_mem _ hy, hne, hxb, hyb⟩
      · rintro ⟨x, hx, y, hy, hne, hxb, hyb⟩
        rcases List.mem_cons.1 hx with rfl | hx'
        · have hy := (List.mem_cons.1 hy).resolve_left (Ne.symm hne)
          exact .inl ⟨hxb, y, hy, hyb⟩
        · rcases List.mem_cons.1 hy with rfl | hy
          · exact .inl ⟨hyb, x, hx', hxb⟩
          · exact .inr ⟨x, hx', y, hy, hne, hxb, hyb⟩

namespace Document

variable {given document : Document}

/-! ### Names of places -/

theorem toList_assignedId (coords : QuestionCoords) : (assignedId coords).toList =
    'q' :: '-' :: (Decimal.print coords.pageIndex ++
      '-' :: (Decimal.print coords.sectionIndex ++
        '-' :: (Decimal.print coords.groupIndex ++
          '-' :: Decimal.print coords.questionIndex))) := by
  simp [assignedId]

theorem assignedId_injective : Function.Injective assignedId := by
  have hhyphen (rest : List Char) (c : Char) (hc : ('-' :: rest).head? = some c) :
      Decimal.isDigit c = false := by
    obtain rfl := Option.some.inj hc
    rfl
  intro a b h
  have hchars := congrArg String.toList h
  rw [toList_assignedId, toList_assignedId, List.cons_inj_right, List.cons_inj_right] at hchars
  obtain ⟨hpage, hchars⟩ := Decimal.print_append_inj (hhyphen _) (hhyphen _) hchars
  obtain ⟨hsection, hchars⟩ :=
    Decimal.print_append_inj (hhyphen _) (hhyphen _) (List.cons.inj hchars).2
  obtain ⟨hgroup, hchars⟩ :=
    Decimal.print_append_inj (hhyphen _) (hhyphen _) (List.cons.inj hchars).2
  have hquestion := Decimal.print_injective (List.cons.inj hchars).2
  cases a
  cases b
  simp_all

/-! ### Completed questions -/

/-- The identifier that a question has once its document has been completed. -/
def completedId (coords : QuestionCoords) (question : Question) : QuestionId :=
  if question.id.isMissing then assignedId coords else question.id

theorem id_of_normaliseQuestion {coords : QuestionCoords} {question completed : Question}
    (h : normaliseQuestion coords question = .ok completed) :
    completed.id = completedId coords question := by
  obtain ⟨subs, -, h⟩ := bind_eq_ok_iff.1 h
  obtain rfl := pure_eq_ok_iff.1 h
  rfl

theorem map_id_questionsAt {key : GroupKey} {group completed : Group}
    (h : normaliseGroup key group = .ok completed) :
    (questionsAt key completed).map (·.2.id) =
      (questionsAt key group).map fun entry => completedId entry.1 entry.2 := by
  obtain ⟨questions, hquestions, h⟩ := bind_eq_ok_iff.1 h
  obtain rfl := pure_eq_ok_iff.1 h
  rw [questionsAt, questionsAt, List.map_map, List.map_map, List.map_eq_flatMap,
    List.map_eq_flatMap]
  exact flatMap_zipIdx_of_mapM hquestions fun q entry result hstep =>
    congrArg ([·]) (id_of_normaliseQuestion hstep)

/-- Every question of a completed document has its own identifier or, if it has none, the one that
is assigned to its place. -/
theorem map_id_normalise (h : given.normalise = .ok document) :
    document.sequence.map (·.id) =
      given.questions.map fun entry => completedId entry.1 entry.2 := by
  obtain ⟨pages, hpages, h⟩ := bind_eq_ok_iff.1 h
  obtain rfl := pure_eq_ok_iff.1 h
  simp only [sequence, questions, groups, List.map_flatMap, List.map_map, List.flatMap_assoc,
    List.flatMap_map]
  refine flatMap_zipIdx_of_mapM hpages fun p page completed hpage => ?_
  obtain ⟨_, -, hpage⟩ := bind_eq_ok_iff.1 hpage
  obtain ⟨sections, hsections, hpage⟩ := bind_eq_ok_iff.1 hpage
  obtain rfl := pure_eq_ok_iff.1 hpage
  refine flatMap_zipIdx_of_mapM (mapError_eq_ok_iff.1 hsections) fun s part completed hpart => ?_
  obtain ⟨groups, hgroups, hpart⟩ := bind_eq_ok_iff.1 hpart
  obtain rfl := pure_eq_ok_iff.1 hpart
  exact flatMap_zipIdx_of_mapM hgroups fun g group completed hgroup => map_id_questionsAt hgroup

/-! ### Documents that can be completed -/

/-- Sub-questions have no sub-questions. -/
def Flat (document : Document) : Prop :=
  ∀ question ∈ document.sequence, ∀ sub ∈ question.subQuestions, sub.subQuestions = []

instance (document : Document) : Decidable document.Flat :=
  inferInstanceAs (Decidable (∀ question ∈ document.sequence, ∀ sub ∈ question.subQuestions,
    sub.subQuestions = []))

theorem exists_normaliseQuestion {question : Question}
    (h : ∀ sub ∈ question.subQuestions, sub.subQuestions = []) (coords : QuestionCoords) :
    ∃ completed, normaliseQuestion coords question = .ok completed := by
  refine exists_bind_pure_eq_ok (exists_mapM_zipIdx_eq_ok fun n sub hsub => ?_)
  have hflat := h sub (List.mem_of_getElem? hsub)
  by_cases hid : sub.id.isMissing = true
  · exact ⟨_, by simp only [normaliseSub, hflat, hid]; rfl⟩
  · exact ⟨sub, by simp [normaliseSub, hflat, hid]⟩

theorem exists_normaliseGroup {group : Group}
    (h : ∀ question ∈ group.questions, ∀ sub ∈ question.subQuestions, sub.subQuestions = [])
    (key : GroupKey) : ∃ completed, normaliseGroup key group = .ok completed :=
  exists_bind_pure_eq_ok (exists_mapM_zipIdx_eq_ok fun _ question hquestion =>
    exists_normaliseQuestion (h question (List.mem_of_getElem? hquestion)) _)

theorem exists_normaliseSection {part : Section}
    (h : ∀ group ∈ part.groups, ∀ question ∈ group.questions, ∀ sub ∈ question.subQuestions,
      sub.subQuestions = []) (p s : Nat) :
    ∃ completed, normaliseSection p s part = .ok completed :=
  exists_bind_pure_eq_ok (exists_mapM_zipIdx_eq_ok fun _ group hgroup =>
    exists_normaliseGroup (h group (List.mem_of_getElem? hgroup)) _)

theorem exists_normalisePage {page : Page}
    (h : ∀ part ∈ page.sections, ∀ group ∈ part.groups, ∀ question ∈ group.questions,
      ∀ sub ∈ question.subQuestions, sub.subQuestions = []) {p n : Nat}
    (hnumber : numberAt p page = .ok n) : ∃ completed, normalisePage p page = .ok completed := by
  rw [normalisePage, hnumber]
  apply exists_bind_pure_eq_ok
  apply Exists.imp fun _ => mapError_eq_ok_iff.2
  exact exists_mapM_zipIdx_eq_ok fun s part hpart =>
    exists_normaliseSection (h part (List.mem_of_getElem? hpart)) p s

/-- A page number can be counted for every page that has none. -/
def Numerable (document : Document) : Prop :=
  ∀ p page, document.pages[p]? = some page → page.pageNumber = 0 →
    p % Page.numberLimit + 1 < Page.numberLimit

theorem exists_numberAt_iff {p : Nat} {page : Page} : (∃ n, numberAt p page = .ok n) ↔
    (page.pageNumber = 0 → p % Page.numberLimit + 1 < Page.numberLimit) := by
  unfold numberAt
  split
  · rename_i hzero
    simp [successor_eq_ok_iff, hzero]
  · rename_i hgiven
    simp [hgiven]

/-- A document has fewer pages than there are numbers for them, or some of them have numbers. -/
theorem numerable_of_length_lt (h : given.pages.length < Page.numberLimit) : given.Numerable := by
  intro p page hpage _
  have hp : p < given.pages.length := (List.getElem?_eq_some_iff.1 hpage).1
  rw [Nat.mod_eq_of_lt (by omega)]
  omega

/-- A document without sub-questions of sub-questions is completed if its pages can be numbered. -/
theorem Flat.exists_normalise_iff (h : given.Flat) :
    (∃ document, given.normalise = .ok document) ↔ given.Numerable := by
  constructor
  · rintro ⟨document, hnormal⟩ p page hpage
    obtain ⟨-, hpages, -, hnumbers⟩ := normalise_eq_ok hnormal
    obtain ⟨hp, rfl⟩ := List.getElem?_eq_some_iff.1 hpage
    exact exists_numberAt_iff.1 ⟨_, hnumbers p hp (hpages.length_eq ▸ hp)⟩
  · intro hnumerable
    refine exists_bind_pure_eq_ok (exists_mapM_zipIdx_eq_ok fun p page hpage => ?_)
    obtain ⟨n, hnumber⟩ := exists_numberAt_iff.2 (hnumerable p page hpage)
    refine exists_normalisePage (fun part hpart group hgroup question hquestion => ?_) hnumber
    exact h question (mem_sequence_iff.2
      ⟨page, List.mem_of_getElem? hpage, part, hpart, group, hgroup, hquestion⟩)

/-! ### Clashes -/

/-- The identifiers that a document gives to its questions. -/
def givenIds (document : Document) : List QuestionId :=
  (document.sequence.filter (!·.id.isMissing)).map (·.id)

/-- An identifier is given to a question and stands for the place of one that has none. -/
def Clashes (document : Document) (id : QuestionId) : Prop :=
  id ∈ document.givenIds ∧ ∃ coords question, document.question? coords = some question ∧
    question.id.isMissing = true ∧ assignedId coords = id

theorem nodup_questions (document : Document) : document.questions.Nodup := by
  refine (pairwise_questions document).imp ?_
  rintro a _ hbefore rfl
  exact List.lt_irrefl _ hbefore

theorem givenIds_eq (document : Document) : document.givenIds =
    (document.questions.filter fun entry => !entry.2.id.isMissing).map (·.2.id) := by
  rw [givenIds, sequence, List.filter_map, List.map_map]
  rfl

theorem mem_givenIds_iff {id : QuestionId} : id ∈ document.givenIds ↔
    ∃ entry ∈ document.questions, entry.2.id.isMissing = false ∧ entry.2.id = id := by
  simp [givenIds_eq, and_assoc]

/-- The question at a place is listed once. -/
theorem eq_of_mem_questions {x y : QuestionCoords × Question} (hx : x ∈ document.questions)
    (hy : y ∈ document.questions) (h : x.1 = y.1) : x = y := by
  obtain ⟨coords, question⟩ := x
  obtain ⟨_, other⟩ := y
  obtain rfl := h
  rw [mem_questions_iff] at hx hy
  rw [Option.some.inj (hx.symm.trans hy)]

theorem completedId_of_missing {entry : QuestionCoords × Question}
    (h : entry.2.id.isMissing = true) : completedId entry.1 entry.2 = assignedId entry.1 := if_pos h

theorem completedId_of_given {entry : QuestionCoords × Question}
    (h : entry.2.id.isMissing = false) : completedId entry.1 entry.2 = entry.2.id :=
  if_neg (by rw [h]; exact Bool.false_ne_true)

/-- An identifier stands twice in a completed document exactly if it clashes: two that are given
differ, and so do two that are assigned. -/
theorem duplicate_normalise_iff (h : given.normalise = .ok document)
    (hgiven : given.givenIds.Nodup) {id : QuestionId} :
    List.Duplicate id (document.sequence.map (·.id)) ↔ given.Clashes id := by
  rw [map_id_normalise h, duplicate_map_iff (nodup_questions given)]
  have hclash {x y : QuestionCoords × Question} (hx : x ∈ given.questions)
      (hy : y ∈ given.questions) (hmissing : x.2.id.isMissing = true)
      (hnamed : y.2.id.isMissing = false) (hxid : completedId x.1 x.2 = id)
      (hyid : completedId y.1 y.2 = id) : given.Clashes id := by
    rw [completedId_of_missing hmissing] at hxid
    rw [completedId_of_given hnamed] at hyid
    exact ⟨mem_givenIds_iff.2 ⟨y, hy, hnamed, hyid⟩, x.1, x.2, mem_questions_iff.1 hx, hmissing,
      hxid⟩
  constructor
  · rintro ⟨x, hx, y, hy, hne, hxid, hyid⟩
    cases hxm : x.2.id.isMissing <;> cases hym : y.2.id.isMissing
    · -- both are given
      rw [givenIds_eq] at hgiven
      rw [completedId_of_given hxm] at hxid
      rw [completedId_of_given hym] at hyid
      refine absurd (List.inj_on_of_nodup_map hgiven ?_ ?_ (hxid.trans hyid.symm)) hne
      · exact List.mem_filter.2 ⟨hx, by rw [hxm]; rfl⟩
      · exact List.mem_filter.2 ⟨hy, by rw [hym]; rfl⟩
    · exact hclash hy hx hym hxm hyid hxid
    · exact hclash hx hy hxm hym hxid hyid
    · -- both are assigned
      rw [completedId_of_missing hxm] at hxid
      rw [completedId_of_missing hym] at hyid
      have hcoords := assignedId_injective (hxid.trans hyid.symm)
      exact absurd (eq_of_mem_questions hx hy hcoords) hne
  · rintro ⟨hid, coords, question, hquestion, hmissing, hassigned⟩
    obtain ⟨y, hy, hnamed, hyid⟩ := mem_givenIds_iff.1 hid
    refine ⟨(coords, question), mem_questions_iff.2 hquestion, y, hy, ?_, ?_, ?_⟩
    · rintro rfl
      rw [hmissing] at hnamed
      cases hnamed
    · exact (@completedId_of_missing (coords, question) hmissing).trans hassigned
    · rw [completedId_of_given hnamed, hyid]

theorem linkIssue?_ne_duplicateId (document : Document) (earlier : List Question)
    (question : Question) (id : QuestionId) :
    document.linkIssue? earlier question ≠ some (.duplicateId id) := by
  intro h
  obtain ⟨parent, -, h⟩ := Option.bind_eq_some_iff.1 h
  split at h <;> split at h <;> cases h

/-- In a row that goes on after some questions, the check reports the identifiers that stand among
these too, and those that stand twice in it. -/
theorem duplicateId_mem_issuesAfter_iff {earlier rest : List Question} {id : QuestionId} :
    .duplicateId id ∈ document.issuesAfter earlier rest ↔
      id ∈ earlier.map (·.id) ∧ id ∈ rest.map (·.id) ∨ List.Duplicate id (rest.map (·.id)) := by
  induction rest generalizing earlier with
  | nil => simp [issuesAfter]
  | cons question rest ih =>
      have htaken : earlier.any (·.id == question.id) = true ↔
          question.id ∈ earlier.map (·.id) := by
        simp only [List.any_eq_true, beq_iff_eq, List.mem_map]
      rw [issuesAfter, List.map_cons, List.mem_cons, List.duplicate_cons_iff]
      split
      · rename_i hmem
        rw [htaken] at hmem
        rw [List.mem_cons, ih, DependencyIssue.duplicateId.injEq]
        constructor
        · rintro (rfl | ⟨hearlier, hrest⟩ | hrest)
          · exact .inl ⟨hmem, .inl rfl⟩
          · exact .inl ⟨hearlier, .inr hrest⟩
          · exact .inr (.inr hrest)
        · rintro (⟨hearlier, heq | hrest⟩ | ⟨heq, -⟩ | hrest)
          · exact .inl heq
          · exact .inr (.inl ⟨hearlier, hrest⟩)
          · exact .inl heq.symm
          · exact .inr (.inr hrest)
      · rename_i hnew
        rw [htaken] at hnew
        rw [List.mem_append, Option.mem_toList, ih, List.map_append, List.mem_append,
          List.map_singleton, List.mem_singleton]
        constructor
        · rintro (hlink | ⟨hearlier | heq, hrest⟩ | hrest)
          · exact absurd hlink (document.linkIssue?_ne_duplicateId earlier question id)
          · exact .inl ⟨hearlier, .inr hrest⟩
          · exact .inr (.inl ⟨heq.symm, heq ▸ hrest⟩)
          · exact .inr (.inr hrest)
        · rintro (⟨hearlier, rfl | hrest⟩ | ⟨rfl, hrest⟩ | hrest)
          · exact absurd hearlier hnew
          · exact .inr (.inl ⟨.inl hearlier, hrest⟩)
          · exact .inr (.inl ⟨.inr rfl, hrest⟩)
          · exact .inr (.inr hrest)

/-- The check reports the identifiers that stand twice. -/
theorem duplicateId_mem_checkDependencies_iff {id : QuestionId} :
    .duplicateId id ∈ document.checkDependencies ↔
      List.Duplicate id (document.sequence.map (·.id)) := by
  have h := @duplicateId_mem_issuesAfter_iff document [] document.sequence id
  rwa [List.map_nil, List.mem_nil_iff, false_and, false_or] at h

/-! ### Importing -/

/-- The document that an imported text gives, before it is completed. -/
def ofGiven (imported : ImportedDocument) (fallback : String) : Document :=
  ⟨imported.chosenName fallback, imported.pages.getD []⟩

/-- What an import reports of a document that can be completed. -/
theorem importBytes_eq_error_dependency_iff {bytes : List UInt8} {fallback : String}
    {imported : ImportedDocument}
    (hdecode : ImportedDocument.decode.source (Json.readBytes bytes) = .ok imported)
    (hnormal : (ofGiven imported fallback).normalise = .ok document)
    {issues : List DependencyIssue} :
    importBytes bytes fallback = .error (.refused (.dependency issues)) ↔
      (imported.pages.isNone && imported.info.isNone) = false ∧ issues ≠ [] ∧
        document.checkDependencies = issues := by
  rw [importBytes, importSource, hdecode]
  simp only [ofImported]
  rw [ofGiven] at hnormal
  cases hnone : imported.pages.isNone && imported.info.isNone with
  | true => simp
  | false =>
      simp only [Bool.false_eq_true, if_false, hnormal, true_and]
      cases hissues : document.checkDependencies with
      | nil => simp [eq_comm]
      | cons issue rest =>
          simp only [Except.error.injEq, Failure.refused.injEq, ImportError.dependency.injEq]
          constructor
          · rintro rfl
            exact ⟨List.cons_ne_nil _ _, rfl⟩
          · exact fun h => h.2

theorem Clashes.exists_page {id : QuestionId} (h : document.Clashes id) : document.pages ≠ [] := by
  obtain ⟨-, coords, question, hquestion, -⟩ := h
  rintro hnil
  simp [question?, group?, hnil] at hquestion

/-- **Assigned identifiers clash only with given ones.** Let the identifiers that a document gives
be distinct and its sub-questions have none of their own. It is completed unless a page number
cannot be counted, and then no identifier stands twice unless one that is given stands for the place
of a question without one. Import reports exactly these identifiers as used more than once. -/
theorem normalise_ids (hgiven : given.givenIds.Nodup) (hflat : given.Flat) :
    ((∃ document, given.normalise = .ok document) ↔ given.Numerable) ∧
      ∀ document, given.normalise = .ok document →
        ((document.sequence.map (·.id)).Nodup ↔ ∀ id, ¬ given.Clashes id) ∧
        ∀ bytes fallback imported,
          ImportedDocument.decode.source (Json.readBytes bytes) = .ok imported →
          ofGiven imported fallback = given → ∀ id,
            (∃ issues, importBytes bytes fallback = .error (.refused (.dependency issues)) ∧
              .duplicateId id ∈ issues) ↔ given.Clashes id := by
  refine ⟨hflat.exists_normalise_iff, fun document hnormal => ⟨?_, ?_⟩⟩
  · rw [List.nodup_iff_forall_not_duplicate]
    exact forall_congr' fun id => not_congr (duplicate_normalise_iff hnormal hgiven)
  · intro bytes fallback imported hdecode hsame id
    subst hsame
    simp only [importBytes_eq_error_dependency_iff hdecode hnormal]
    rw [← duplicate_normalise_iff hnormal hgiven, ← duplicateId_mem_checkDependencies_iff]
    constructor
    · rintro ⟨_, ⟨-, -, rfl⟩, hmem⟩
      exact hmem
    · intro hmem
      refine ⟨_, ⟨?_, List.ne_nil_of_mem hmem, rfl⟩, hmem⟩
      have hclash := (duplicate_normalise_iff hnormal hgiven).1
        (duplicateId_mem_checkDependencies_iff.1 hmem)
      cases hpages : imported.pages with
      | none => exact absurd (by rw [ofGiven, hpages]; rfl) hclash.exists_page
      | some pages => rfl

/-- A text that was saved after its second question had been moved to the front, and to which a
question was added then. -/
def movedText : Json :=
  .object [("sourceName", .string "pets.pdf"),
    ("pages", .array [.object [("sections", .array [.object [("groups", .array [.object [
      ("questions", .array [
        .object [("id", .string "q-0-0-0-1"), ("text", .string "Name?")],
        .object [("text", .string "Age?")]])]])]])]])]

/-- The document that the text gives. -/
def movedForm : Document :=
  ⟨"pets.pdf", [⟨"", 0, [⟨"", [⟨"", false, [
    { Question.blank with id := "q-0-0-0-1", text := "Name?" },
    { Question.blank with text := "Age?" }]⟩]⟩]⟩]⟩

theorem source_decode_movedText :
    ImportedDocument.decode.source (Json.readBytes movedText.compact.toUTF8.data.toList) =
      .ok ⟨some "pets.pdf", none, some movedForm.pages⟩ := by
  have hlegible : movedText.Legible 13 := by simp [movedText]
  rw [Json.readBytes_compact hlegible (by decide)]
  rfl

/-- The question that was added is given the identifier of the one that was moved, though it is the
only one that the text leaves without an identifier, and the text is refused. -/
theorem exists_clash_movedText : movedForm.givenIds.Nodup ∧ movedForm.Flat ∧
    (∃ document, movedForm.normalise = .ok document ∧ ¬ (document.sequence.map (·.id)).Nodup) ∧
    importBytes movedText.compact.toUTF8.data.toList "form.json" =
      .error (.refused (.dependency [.duplicateId "q-0-0-0-1"])) := by
  refine ⟨by decide, by decide, ⟨_, rfl, by decide⟩, ?_⟩
  rw [importBytes, importSource, source_decode_movedText]
  rfl

theorem normalise_ids_movedText : movedForm.givenIds.Nodup ∧ movedForm.Flat ∧
    ∃ document issues, movedForm.normalise = .ok document ∧
      importBytes movedText.compact.toUTF8.data.toList "form.json" =
        .error (.refused (.dependency issues)) ∧ .duplicateId "q-0-0-0-1" ∈ issues := by
  have hgiven : movedForm.givenIds.Nodup := by decide
  have hflat : movedForm.Flat := by decide
  have hclash : movedForm.Clashes "q-0-0-0-1" :=
    ⟨by decide, ⟨0, 0, 0, 1⟩, _, rfl, by decide, by decide⟩
  obtain ⟨hdone, hids⟩ := normalise_ids hgiven hflat
  obtain ⟨document, hnormal⟩ := hdone.2 (numerable_of_length_lt (by decide))
  obtain ⟨-, himport⟩ := hids document hnormal
  obtain ⟨issues, hissues, hmem⟩ :=
    (himport _ "form.json" _ source_decode_movedText rfl "q-0-0-0-1").2 hclash
  exact ⟨hgiven, hflat, document, issues, hnormal, hissues, hmem⟩

end Document

end Questionnaire
