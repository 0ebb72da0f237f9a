import Questionnaire.Document.Import
import Questionnaire.Proofs.Document.Order
import Questionnaire.Proofs.Question.Codec

/-! # Documents in JSON and back

A saved document is read as an imported text with the same name and pages
(`Document.source_decode_saved`) if its questions are complete, what they hold can be written
(`Page.Writable`) and the numbers in their rules are read back. Every page that has been decoded can
be written (`Page.yields_decode`). -/

namespace Questionnaire

open Decoder

/-! ### Groups, sections and pages -/

namespace Group

theorem yields_decode :
    Yields decode fun group => ∀ question ∈ group.questions, question.Writable := by
  refine yields_record nofun ?_
  simp only [fields, List.forall_mem_cons]
  exact ⟨keeps_field (yields_true _) fun _ _ _ h => h,
    keeps_field (yields_true _) fun _ _ _ h => h,
    keeps_field Question.yields_decode.list fun _ _ hquestions _ => hquestions, nofun⟩

theorem reads_toJson {group : Group}
    (h : ∀ question ∈ group.questions, Reads Question.decode question.toJson question) :
    Reads decode group.toJson group := by
  have hfills : Fills fields [some (.string group.title), some (.bool group.repeatable),
      some (.array (group.questions.map Question.toJson))] ⟨"", false, []⟩ group :=
    .given (reads_string _) <| .given (reads_bool _) <| .given (reads_list h) <| .nil _
  exact hfills.reads_record (by decide) (by simp [fields, field]) "Group"

theorem legible_toJson {levels : Nat} {group : Group}
    (h : ∀ question ∈ group.questions, question.toJson.Legible levels) :
    group.toJson.Legible (levels + 2) := by
  refine .object ?_
  simp only [List.forall_mem_cons]
  exact ⟨.string _ _, .bool _ _, Json.legible_map_array h, nofun⟩

end Group

namespace Section

theorem yields_decode : Yields decode fun part =>
    ∀ group ∈ part.groups, ∀ question ∈ group.questions, question.Writable := by
  refine yields_record nofun ?_
  simp only [fields, List.forall_mem_cons]
  exact ⟨keeps_field (yields_true _) fun _ _ _ h => h,
    keeps_field Group.yields_decode.list fun _ _ hgroups _ => hgroups, nofun⟩

theorem reads_toJson {part : Section}
    (h : ∀ group ∈ part.groups, Reads Group.decode group.toJson group) :
    Reads decode part.toJson part := by
  have hfills : Fills fields [some (.string part.title),
      some (.array (part.groups.map Group.toJson))] ⟨"", []⟩ part :=
    .given (reads_string _) <| .given (reads_list h) <| .nil _
  exact hfills.reads_record (by decide) (by simp [fields, field]) "Section"

theorem legible_toJson {levels : Nat} {part : Section}
    (h : ∀ group ∈ part.groups, group.toJson.Legible levels) :
    part.toJson.Legible (levels + 2) := by
  refine .object ?_
  simp only [List.forall_mem_cons]
  exact ⟨.string _ _, Json.legible_map_array h, nofun⟩

end Section

/-- The number of a page and what its questions hold can be written and read. -/
structure Page.Writable (page : Page) : Prop where
  pageNumber : page.pageNumber < numberLimit
  questions : ∀ part ∈ page.sections, ∀ group ∈ part.groups, ∀ question ∈ group.questions,
    question.Writable

namespace Page

/-- Every page that has been decoded can be written and read. -/
theorem yields_decode : Yields decode Writable := by
  refine yields_record ⟨by decide, nofun⟩ ?_
  simp only [fields, List.forall_mem_cons]
  exact ⟨keeps_field (yields_true _) fun _ _ _ h => ⟨h.pageNumber, h.questions⟩,
    keeps_field (yields_nat _ _) fun _ _ hnumber h => ⟨hnumber, h.questions⟩,
    keeps_field Section.yields_decode.list fun _ _ hsections h => ⟨h.pageNumber, hsections⟩, nofun⟩

theorem reads_toJson {page : Page} (hnumber : page.pageNumber < numberLimit)
    (h : ∀ part ∈ page.sections, Reads Section.decode part.toJson part) :
    Reads decode page.toJson page := by
  have hfills : Fills fields [some (.string page.title), some (.ofNat page.pageNumber),
      some (.array (page.sections.map Section.toJson))] ⟨"", 0, []⟩ page :=
    .given (reads_string _) <| .given (reads_nat hnumber _) <| .given (reads_list h) <| .nil _
  exact hfills.reads_record (by decide) (by simp [fields, field]) "Page"

theorem legible_toJson {levels : Nat} {page : Page} (hnumber : page.pageNumber < numberLimit)
    (h : ∀ part ∈ page.sections, part.toJson.Legible levels) :
    page.toJson.Legible (levels + 2) := by
  have hword : page.pageNumber < wordLimit := Nat.lt_trans hnumber (by decide)
  refine .object ?_
  simp only [List.forall_mem_cons]
  exact ⟨.string _ _, .number _ hword, Json.legible_map_array h, nofun⟩

end Page

/-! ### Documents -/

theorem ImportedDocument.yields_decode : Yields decode fun imported =>
    ∀ pages, imported.pages = some pages → ∀ page ∈ pages, page.Writable := by
  refine yields_record nofun ?_
  simp only [fields, List.forall_mem_cons]
  exact ⟨keeps_field (yields_true _) fun _ _ _ h => h,
    keeps_field (yields_true _) fun _ _ _ h => h,
    keeps_field Page.yields_decode.list.optional fun _ _ hpages _ => hpages, nofun⟩

namespace Document

variable {document : Document}

theorem mem_sequence_iff {question : Question} : question ∈ document.sequence ↔
    ∃ page ∈ document.pages, ∃ part ∈ page.sections, ∃ group ∈ part.groups,
      question ∈ group.questions := by
  simp only [sequence_eq_flatMap, List.mem_flatMap]

/-- The numbers in the rules of a document's questions. -/
def numbers (document : Document) : List Binary64 := document.sequence.flatMap Question.numbers

/-- The bytes of the text in which a document is saved. -/
def saved (document : Document) : List UInt8 := document.toJson.compact.toUTF8.data.toList

theorem writable_of_mem_sequence (h : ∀ page ∈ document.pages, page.Writable) :
    ∀ question ∈ document.sequence, question.Writable := by
  intro question hquestion
  obtain ⟨page, hpage, part, hpart, group, hgroup, hquestion⟩ := mem_sequence_iff.1 hquestion
  exact (h page hpage).questions part hpart group hgroup question hquestion

/-- The JSON of a document is read as an imported text. -/
theorem reads_toJson (hnumber : ∀ page ∈ document.pages, page.pageNumber < Page.numberLimit)
    (h : ∀ question ∈ document.sequence, Reads Question.decode question.toJson question) :
    Reads ImportedDocument.decode document.toJson
      ⟨some document.sourceName, none, some document.pages⟩ := by
  have hpages (page : Page) (hpage : page ∈ document.pages) :
      Reads Page.decode page.toJson page := by
    refine Page.reads_toJson (hnumber page hpage) fun part hpart => ?_
    refine Section.reads_toJson fun group hgroup => Group.reads_toJson fun question hquestion => ?_
    exact h question (mem_sequence_iff.2 ⟨page, hpage, part, hpart, group, hgroup, hquestion⟩)
  have hfills : Fills ImportedDocument.fields [some (.string document.sourceName), none,
      some (.array (document.pages.map Page.toJson))] ⟨none, none, none⟩
      ⟨some document.sourceName, none, some document.pages⟩ :=
    .given ((reads_string _).optional nofun) <| .absent <|
      .given ((reads_list hpages).optional nofun) <| .nil _
  exact hfills.reads_record (by decide) (by simp [ImportedDocument.fields, field]) "RawDocument"

theorem legible_toJson (hnumber : ∀ page ∈ document.pages, page.pageNumber < Page.numberLimit)
    {levels : Nat} (h : ∀ question ∈ document.sequence, question.toJson.Legible levels) :
    document.toJson.Legible (levels + 8) := by
  have hpages (page : Page) (hpage : page ∈ document.pages) : page.toJson.Legible (levels + 6) := by
    refine Page.legible_toJson (hnumber page hpage) fun part hpart => ?_
    refine Section.legible_toJson fun group hgroup => ?_
    refine Group.legible_toJson fun question hquestion => ?_
    exact h question (mem_sequence_iff.2 ⟨page, hpage, part, hpart, group, hgroup, hquestion⟩)
  refine .object ?_
  simp only [List.forall_mem_cons]
  exact ⟨.string _ _, Json.legible_map_array hpages, nofun⟩

/-- A saved document is read as an imported text. -/
theorem source_decode_saved (hwritable : ∀ page ∈ document.pages, page.Writable)
    (hcomplete : ∀ question ∈ document.sequence, question.Complete)
    (hnumbers : ∀ x ∈ document.numbers, x.ReadsBack) :
    ImportedDocument.decode.source (Json.readBytes document.saved) =
      .ok ⟨some document.sourceName, none, some document.pages⟩ := by
  have hnumber (page : Page) (hpage : page ∈ document.pages) : page.pageNumber < Page.numberLimit :=
    (hwritable page hpage).pageNumber
  have hquestions := writable_of_mem_sequence hwritable
  have hlegible : document.toJson.Legible (5 + 8) :=
    legible_toJson hnumber fun question hquestion =>
      Question.legible_toJson (hcomplete question hquestion) (hquestions question hquestion)
        (fun x hx => hnumbers x (List.mem_flatMap.2 ⟨question, hquestion, hx⟩)) 0
  have hreads := reads_toJson hnumber fun question hquestion =>
    Question.reads_toJson (hcomplete question hquestion) (hquestions question hquestion)
  rw [saved, Json.readBytes_compact hlegible (by decide), source, hreads .text]
  rfl

end Document

end Questionnaire
