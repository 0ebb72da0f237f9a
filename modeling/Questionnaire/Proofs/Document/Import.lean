import Questionnaire.Proofs.Document.Codec
import Questionnaire.Proofs.Document.Dependency

/-! # Imported documents

Completing a text gives a document in which every question is complete and everything that the text
gives is kept (`Page.Completed`); a complete document is left as it is. A document that has been
imported is sound (`Document.Sound`) and is imported again as it is from the text in which it is
saved (`Document.importBytes_stable`). -/

namespace Questionnaire

/-! ### What is kept -/

/-- A sub-question is a given one, which keeps its identifier if it has one. -/
structure Question.Named (given sub : Question) : Prop where
  id : given.id.isMissing = false → sub.id = given.id
  rest : sub = { given with id := sub.id }

/-- A question is a given one that has been completed. -/
structure Question.Completed (given question : Question) : Prop where
  id : given.id.isMissing = false → question.id = given.id
  subQuestions : List.Forall₂ Named given.subQuestions question.subQuestions
  rest : question = { given with id := question.id, subQuestions := question.subQuestions }

/-- A group is a given one whose questions have been completed. -/
structure Group.Completed (given group : Group) : Prop where
  questions : List.Forall₂ Question.Completed given.questions group.questions
  rest : group = { given with questions := group.questions }

/-- A section is a given one whose questions have been completed. -/
structure Section.Completed (given part : Section) : Prop where
  groups : List.Forall₂ Group.Completed given.groups part.groups
  rest : part = { given with groups := part.groups }

/-- A page is a given one that has been completed. -/
structure Page.Completed (given page : Page) : Prop where
  pageNumber : given.pageNumber ≠ 0 → page.pageNumber = given.pageNumber
  sections : List.Forall₂ Section.Completed given.sections page.sections
  rest : page = { given with pageNumber := page.pageNumber, sections := page.sections }

theorem Question.Named.refl (sub : Question) : sub.Named sub := ⟨fun _ => rfl, by cases sub; rfl⟩

theorem Question.Named.regular {given sub : Question} (h : given.Named sub)
    (hregular : given.Regular) : sub.Regular := by
  rw [h.rest]
  exact ⟨hregular.options, hregular.validation⟩

theorem Question.Completed.writable {given question : Question} (h : given.Completed question)
    (hwritable : given.Writable) : question.Writable := by
  refine ⟨?_, forall_mem_of_forall₂ h.subQuestions hwritable.2 fun _ _ => Named.regular⟩
  rw [h.rest]
  exact ⟨hwritable.1.options, hwritable.1.validation⟩

theorem Page.Completed.writable {given page : Page} (h : given.Completed page)
    (hwritable : given.Writable) (hnumber : page.pageNumber < numberLimit) : page.Writable := by
  refine ⟨hnumber, forall_mem_of_forall₂ h.sections hwritable.questions ?_⟩
  intro givenPart part hpart hgroups
  refine forall_mem_of_forall₂ hpart.groups hgroups ?_
  intro givenGroup group hgroup hquestions
  exact forall_mem_of_forall₂ hgroup.questions hquestions fun _ _ => Question.Completed.writable

namespace Document

/-! ### Identifiers -/

theorem isMissing_eq_false_of_mem {id : QuestionId} {c : Char} (hc : c ∈ id.toList)
    (hblank : Text.isBlank c = false) : id.isMissing = false := by
  rw [QuestionId.isMissing, Text.blank, List.all_eq_false]
  exact ⟨c, hc, by rw [hblank]; exact Bool.false_ne_true⟩

theorem isMissing_assignedId (coords : QuestionCoords) : (assignedId coords).isMissing = false :=
  isMissing_eq_false_of_mem (c := 'q') (by simp [assignedId]) (by decide)

theorem isMissing_assignedSubId (question : QuestionId) (position : Nat) :
    (assignedSubId question position).isMissing = false :=
  isMissing_eq_false_of_mem (c := '-') (by simp [assignedSubId]) (by decide)

/-! ### Completing -/

theorem normaliseSub_eq_ok {id : QuestionId} {given sub : Question} {position : Nat}
    (h : normaliseSub id given position = .ok sub) :
    given.Named sub ∧ sub.id.isMissing = false ∧ sub.subQuestions = [] := by
  unfold normaliseSub at h
  split at h
  · cases h
  · rename_i hflat
    have hnil : given.subQuestions = [] := by simpa using hflat
    split at h
    · rename_i hmissing
      obtain rfl := Except.ok.inj h
      refine ⟨⟨fun hnamed => ?_, rfl⟩, isMissing_assignedSubId id position, hnil⟩
      rw [hmissing] at hnamed
      cases hnamed
    · rename_i hnamed
      obtain rfl := Except.ok.inj h
      exact ⟨.refl given, by simpa using hnamed, hnil⟩

/-- A question that has been completed is complete. -/
theorem normaliseQuestion_eq_ok {coords : QuestionCoords} {given question : Question}
    (h : normaliseQuestion coords given = .ok question) :
    given.Completed question ∧ question.Complete := by
  obtain ⟨subs, hsubs, h⟩ := bind_eq_ok_iff.1 h
  obtain rfl := pure_eq_ok_iff.1 h
  have hkept : List.Forall₂ Question.Named given.subQuestions subs :=
    forall₂_of_mapM_zipIdx hsubs fun i entry result hstep => (normaliseSub_eq_ok hstep).1
  have hnamed : ∀ sub ∈ subs, sub.id.isMissing = false ∧ sub.subQuestions = [] :=
    forall_mem_of_mapM_zipIdx hsubs fun i entry result hstep => (normaliseSub_eq_ok hstep).2
  refine ⟨⟨fun hid => if_neg (by rw [hid]; exact Bool.false_ne_true), hkept, rfl⟩,
    ⟨?_, fun sub hsub => (hnamed sub hsub).1, fun sub hsub => (hnamed sub hsub).2⟩⟩
  show (if given.id.isMissing then assignedId coords else given.id).isMissing = false
  split
  · exact isMissing_assignedId coords
  · rename_i hid
    simpa using hid

/-- A complete question is left as it is. -/
theorem normaliseQuestion_self {question : Question} (h : question.Complete)
    (coords : QuestionCoords) : normaliseQuestion coords question = .ok question := by
  obtain ⟨id, text, answerType, required, options, validation, parent, showWhen, subs,
    appliesTo⟩ := question
  have hnamed : id.isMissing = false := h.named
  have hsub (n : Nat) (hn : n < subs.length) : normaliseSub id subs[n] n = .ok subs[n] := by
    have hmem : subs[n] ∈ subs := List.getElem_mem hn
    simp [normaliseSub, h.flat _ hmem, h.subNamed _ hmem]
  simp only [normaliseQuestion, hnamed, Bool.false_eq_true, if_false]
  rw [mapM_zipIdx_self hsub]
  rfl

theorem normaliseGroup_eq_ok {key : GroupKey} {given group : Group}
    (h : normaliseGroup key given = .ok group) :
    given.Completed group ∧ ∀ question ∈ group.questions, question.Complete := by
  obtain ⟨questions, hquestions, h⟩ := bind_eq_ok_iff.1 h
  obtain rfl := pure_eq_ok_iff.1 h
  have hkept : List.Forall₂ Question.Completed given.questions questions :=
    forall₂_of_mapM_zipIdx hquestions fun q _ _ hstep => (normaliseQuestion_eq_ok hstep).1
  exact ⟨⟨hkept, rfl⟩,
    forall_mem_of_mapM_zipIdx hquestions fun q _ _ hstep => (normaliseQuestion_eq_ok hstep).2⟩

theorem normaliseGroup_self {group : Group} (h : ∀ question ∈ group.questions, question.Complete)
    (key : GroupKey) : normaliseGroup key group = .ok group := by
  rw [normaliseGroup, mapM_zipIdx_self]
  · rfl
  · exact fun q hq => normaliseQuestion_self (h _ (List.getElem_mem hq)) (key.question q)

theorem normaliseSection_eq_ok {p s : Nat} {given part : Section}
    (h : normaliseSection p s given = .ok part) : given.Completed part ∧
      ∀ group ∈ part.groups, ∀ question ∈ group.questions, question.Complete := by
  obtain ⟨groups, hgroups, h⟩ := bind_eq_ok_iff.1 h
  obtain rfl := pure_eq_ok_iff.1 h
  have hkept : List.Forall₂ Group.Completed given.groups groups :=
    forall₂_of_mapM_zipIdx hgroups fun g _ _ hstep => (normaliseGroup_eq_ok hstep).1
  exact ⟨⟨hkept, rfl⟩,
    forall_mem_of_mapM_zipIdx hgroups fun g _ _ hstep => (normaliseGroup_eq_ok hstep).2⟩

theorem normaliseSection_self {part : Section}
    (h : ∀ group ∈ part.groups, ∀ question ∈ group.questions, question.Complete) (p s : Nat) :
    normaliseSection p s part = .ok part := by
  rw [normaliseSection, mapM_zipIdx_self]
  · rfl
  · exact fun g hg => normaliseGroup_self (h _ (List.getElem_mem hg)) ⟨p, s, g⟩

/-- The number of a page is its own or one that has been counted, which is not zero either. -/
theorem numberAt_eq_ok {p n : Nat} {given : Page} (h : numberAt p given = .ok n) :
    n ≠ 0 ∧ (given.pageNumber ≠ 0 → n = given.pageNumber) ∧
      (given.pageNumber < Page.numberLimit → n < Page.numberLimit) := by
  unfold numberAt at h
  split at h
  · rename_i hzero
    obtain ⟨hfits, rfl⟩ := successor_eq_ok_iff.1 h
    exact ⟨Nat.succ_ne_zero _, fun hgiven => absurd hzero hgiven, fun _ => hfits⟩
  · rename_i hgiven
    obtain rfl := Except.ok.inj h
    exact ⟨hgiven, fun _ => rfl, id⟩

theorem normalisePage_eq_ok {p : Nat} {given page : Page}
    (h : normalisePage p given = .ok page) : given.Completed page ∧
      (∀ part ∈ page.sections, ∀ group ∈ part.groups, ∀ question ∈ group.questions,
        question.Complete) ∧
      numberAt p given = .ok page.pageNumber := by
  obtain ⟨n, hnumber, h⟩ := bind_eq_ok_iff.1 h
  obtain ⟨sections, hsections, h⟩ := bind_eq_ok_iff.1 h
  obtain rfl := pure_eq_ok_iff.1 h
  rw [mapError_eq_ok_iff] at hnumber hsections
  have hkept : List.Forall₂ Section.Completed given.sections sections :=
    forall₂_of_mapM_zipIdx hsections fun s _ _ hstep => (normaliseSection_eq_ok hstep).1
  exact ⟨⟨(numberAt_eq_ok hnumber).2.1, hkept, rfl⟩,
    forall_mem_of_mapM_zipIdx hsections fun s _ _ hstep => (normaliseSection_eq_ok hstep).2,
    hnumber⟩

theorem normalisePage_self {page : Page}
    (h : ∀ part ∈ page.sections, ∀ group ∈ part.groups, ∀ question ∈ group.questions,
      question.Complete) (hnumber : page.pageNumber ≠ 0) (p : Nat) :
    normalisePage p page = .ok page := by
  rw [normalisePage, numberAt, if_neg hnumber, mapM_zipIdx_self]
  · rfl
  · exact fun s hs => normaliseSection_self (h _ (List.getElem_mem hs)) p s

/-! ### Importing -/

/-- What is demanded of an imported document beside the completeness of its questions. -/
structure Intact (document : Document) : Prop where
  linked : Linked document.sequence
  writable : ∀ page ∈ document.pages, page.Writable
  numbered : ∀ page ∈ document.pages, page.pageNumber ≠ 0

/-- What is demanded of an imported document. -/
structure Sound (document : Document) : Prop extends document.Intact where
  complete : ∀ question ∈ document.sequence, question.Complete

theorem normalise_eq_ok {given document : Document} (h : normalise given = .ok document) :
    document.sourceName = given.sourceName ∧
      List.Forall₂ Page.Completed given.pages document.pages ∧
      (∀ question ∈ document.sequence, question.Complete) ∧
      ∀ p (hp : p < given.pages.length) (hp' : p < document.pages.length),
        numberAt p given.pages[p] = .ok document.pages[p].pageNumber := by
  obtain ⟨pages, hpages, h⟩ := bind_eq_ok_iff.1 h
  obtain rfl := pure_eq_ok_iff.1 h
  refine ⟨rfl, forall₂_of_mapM_zipIdx hpages fun p _ _ hstep => (normalisePage_eq_ok hstep).1,
    ?_, ?_⟩
  · intro question hquestion
    obtain ⟨page, hpage, part, hpart, group, hgroup, hquestion⟩ := mem_sequence_iff.1 hquestion
    have hcomplete := forall_mem_of_mapM_zipIdx hpages
      fun p _ _ hstep => (normalisePage_eq_ok hstep).2.1
    exact hcomplete page hpage part hpart group hgroup question hquestion
  · intro p hp hp'
    obtain ⟨-, hsteps⟩ := mapM_zipIdx_eq_ok_iff.1 hpages
    exact (normalisePage_eq_ok (hsteps p hp hp')).2.2

/-- A document that has been completed and has no issues is sound. -/
theorem sound_of_normalise {given document : Document} (h : normalise given = .ok document)
    (hcheck : document.checkDependencies = []) (hgiven : ∀ page ∈ given.pages, page.Writable) :
    document.Sound := by
  obtain ⟨-, hpages, hcomplete, hnumbers⟩ := normalise_eq_ok h
  have hlength := hpages.length_eq
  refine ⟨⟨checkDependencies_eq_nil_iff.1 hcheck, ?_, ?_⟩, hcomplete⟩
  · intro page hpage
    obtain ⟨p, hp, rfl⟩ := List.mem_iff_getElem.1 hpage
    have hp' : p < given.pages.length := hlength ▸ hp
    have hwritable := hgiven _ (List.getElem_mem hp')
    exact (hpages.get hp' hp).writable hwritable
      ((numberAt_eq_ok (hnumbers p hp' hp)).2.2 hwritable.pageNumber)
  · intro page hpage
    obtain ⟨p, hp, rfl⟩ := List.mem_iff_getElem.1 hpage
    exact (numberAt_eq_ok (hnumbers p (hlength ▸ hp) hp)).1

/-- A sound document is left as it is. -/
theorem Sound.normalise {document : Document} (h : document.Sound) :
    document.normalise = .ok document := by
  have hpage (p : Nat) (hp : p < document.pages.length) :
      normalisePage p document.pages[p] = .ok document.pages[p] := by
    refine normalisePage_self ?_ (h.numbered _ (List.getElem_mem hp)) p
    intro part hpart group hgroup question hquestion
    exact h.complete question (mem_sequence_iff.2
      ⟨_, List.getElem_mem hp, part, hpart, group, hgroup, hquestion⟩)
  rw [Document.normalise, mapM_zipIdx_self]
  · rfl
  · exact hpage

theorem ofImported_eq_ok_iff {imported : ImportedDocument} {fallback : String}
    {document : Document} : ofImported imported fallback = .ok document ↔
      (imported.pages.isNone && imported.info.isNone) = false ∧
        normalise ⟨imported.chosenName fallback, imported.pages.getD []⟩ = .ok document ∧
          document.checkDependencies = [] := by
  unfold ofImported
  split
  · rename_i hnone
    simp [hnone]
  · rename_i hsome
    rw [Bool.not_eq_true] at hsome
    cases hnormal : Document.normalise ⟨imported.chosenName fallback, imported.pages.getD []⟩ with
    | error error => simp
    | ok found =>
        simp only [hsome, Except.ok.injEq, true_and]
        constructor
        · intro h
          split at h
          · rename_i hcheck
            obtain rfl := Except.ok.inj h
            exact ⟨rfl, hcheck⟩
          · cases h
        · rintro ⟨rfl, hcheck⟩
          rw [hcheck]

theorem importBytes_eq_ok_iff {bytes : List UInt8} {fallback : String} {document : Document} :
    importBytes bytes fallback = .ok document ↔ ∃ imported,
      ImportedDocument.decode.source (Json.readBytes bytes) = .ok imported ∧
        ofImported imported fallback = .ok document := by
  unfold importBytes importSource
  split
  · rename_i error herror
    simp [herror]
  · rename_i imported himported
    simp [himported]

/-- A sound document is imported again from what is saved, if the fallback cannot replace its
name. -/
theorem Sound.importBytes_saved {document : Document} (h : document.Sound)
    (hnumbers : ∀ x ∈ document.numbers, x.ReadsBack) {fallback : String}
    (hname : Text.blank document.sourceName = true → fallback = document.sourceName) :
    importBytes document.saved fallback = .ok document := by
  have hchosen : ImportedDocument.chosenName
      ⟨some document.sourceName, none, some document.pages⟩ fallback = document.sourceName := by
    cases hblank : Text.blank document.sourceName with
    | false => simp [ImportedDocument.chosenName, Option.filter_some, hblank]
    | true => simp [ImportedDocument.chosenName, Option.filter_some, hblank, hname hblank]
  rw [importBytes_eq_ok_iff]
  refine ⟨_, source_decode_saved h.writable h.complete hnumbers, ofImported_eq_ok_iff.2 ?_⟩
  rw [hchosen]
  exact ⟨rfl, h.normalise, checkDependencies_eq_nil_iff.2 h.linked⟩

/-- The name that is chosen is blank only if the fallback is, which then stands for it. -/
theorem eq_chosenName_of_blank {imported : ImportedDocument} {fallback : String}
    (h : Text.blank (imported.chosenName fallback) = true) :
    fallback = imported.chosenName fallback := by
  have hall (given : Option String)
      (hblank : Text.blank ((given.filter (!Text.blank ·)).getD fallback) = true) :
      fallback = (given.filter (!Text.blank ·)).getD fallback := by
    cases hfilter : given.filter (!Text.blank ·) with
    | none => rfl
    | some name =>
        rw [hfilter, Option.getD_some] at hblank
        rw [Option.filter_eq_some_iff] at hfilter
        simp [hblank] at hfilter
  exact hall _ h

/-- Import gives sound documents. -/
theorem sound_of_importBytes {bytes : List UInt8} {fallback : String} {document : Document}
    (h : importBytes bytes fallback = .ok document) : document.Sound := by
  obtain ⟨imported, hdecode, himport⟩ := importBytes_eq_ok_iff.1 h
  obtain ⟨-, hnormal, hcheck⟩ := ofImported_eq_ok_iff.1 himport
  refine sound_of_normalise hnormal hcheck ?_
  have hpages := ImportedDocument.yields_decode.source hdecode
  cases hgiven : imported.pages with
  | none => nofun
  | some pages => exact hpages pages hgiven

/-- The name of an imported document is blank only if the fallback is, which then stands for it. -/
theorem eq_sourceName_of_blank {bytes : List UInt8} {fallback : String} {document : Document}
    (h : importBytes bytes fallback = .ok document)
    (hblank : Text.blank document.sourceName = true) : fallback = document.sourceName := by
  obtain ⟨imported, -, himport⟩ := importBytes_eq_ok_iff.1 h
  obtain ⟨-, hnormal, -⟩ := ofImported_eq_ok_iff.1 himport
  obtain ⟨hname, -⟩ := normalise_eq_ok hnormal
  rw [hname] at hblank ⊢
  exact eq_chosenName_of_blank hblank

/-- **An imported document is sound, keeps what the text gives, and is imported again as it is once
it has been saved.** -/
theorem importBytes_stable {bytes : List UInt8} {fallback : String} {document : Document}
    (h : importBytes bytes fallback = .ok document) :
    document.Sound ∧
      (∀ page ∈ document.pages, page.pageNumber ≠ 0) ∧
      (∃ imported, ImportedDocument.decode.source (Json.readBytes bytes) = .ok imported ∧
        List.Forall₂ Page.Completed (imported.pages.getD []) document.pages) ∧
      ((∀ x ∈ document.numbers, x.ReadsBack) →
        importBytes document.saved fallback = .ok document) := by
  have hsound := sound_of_importBytes h
  obtain ⟨imported, hdecode, himport⟩ := importBytes_eq_ok_iff.1 h
  obtain ⟨-, hnormal, -⟩ := ofImported_eq_ok_iff.1 himport
  exact ⟨hsound, hsound.numbered, ⟨imported, hdecode, (normalise_eq_ok hnormal).2.1⟩,
    fun hnumbers => hsound.importBytes_saved hnumbers (eq_sourceName_of_blank h)⟩

/-- A text that leaves open a page number, two identifiers and the value of an option. -/
def petText : Json :=
  .object [("documentInfo", .object [("filename", .string "pets.pdf")]),
    ("pages", .array [.object [("sections", .array [.object [("groups", .array [.object [
      ("questions", .array [
        .object [("id", .string "pets"), ("text", .string "Pets?"), ("type", .string "radio"),
          ("options", .array [.string "no",
            .object [("label", .string "yes"), ("inputType", .string " ")]])],
        .object [("text", .string "How many?"), ("parentQuestionId", .string "pets"),
          ("showWhen", .string "yes"), ("validation", .object [("min", .ofNat 1)]),
          ("subQuestions", .array [.object [("text", .string "Dogs")]])]])]])]])]])]

/-- The document that the text is imported as. -/
def petDocument : Document :=
  ⟨"pets.pdf", [⟨"", 1, [⟨"", [⟨"", false, [
    { Question.blank with
      id := "pets", text := "Pets?", answerType := .radio, options := [.plain "no", .plain "yes"] },
    { Question.blank with
      id := "q-0-0-0-1", text := "How many?", parent := some "pets", showWhen := some (.one "yes")
      validation := some { ValidationSpec.empty with min := some (.ofNat 1) }
      subQuestions := [{ Question.blank with id := "q-0-0-0-1-sub0", text := "Dogs" }] }]⟩]⟩]⟩]⟩

theorem importBytes_petText :
    importBytes petText.compact.toUTF8.data.toList "form.json" = .ok petDocument := by
  have hlegible : petText.Legible 13 := by simp [petText, Json.ofNat, JsonNumber.Legible, wordLimit]
  rw [importBytes, Json.readBytes_compact hlegible (by decide)]
  rfl

theorem readsBack_petDocument : ∀ x ∈ petDocument.numbers, x.ReadsBack :=
  List.forall_mem_singleton.2 Binary64.readsBack_one

/-- The completed text is saved and imported again. -/
theorem importBytes_stable_petText :
    importBytes petText.compact.toUTF8.data.toList "form.json" = .ok petDocument ∧
      petDocument.Sound ∧ (∀ page ∈ petDocument.pages, page.pageNumber ≠ 0) ∧
      importBytes petDocument.saved "form.json" = .ok petDocument := by
  obtain ⟨hsound, hnumbered, -, hagain⟩ := importBytes_stable importBytes_petText
  exact ⟨importBytes_petText, hsound, hnumbered, hagain readsBack_petDocument⟩

end Document

end Questionnaire
