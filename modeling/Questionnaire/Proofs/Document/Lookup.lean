import Questionnaire.Proofs.Document.Edit

/-! # Three ways to a question

A question is reached by going through the document, by its coordinates and by its identifier. An
identifier stands for one place (`Document.FirstPlace`): a question there has it, and all others
that have it come later. That place is the one at which the identifier is located
(`Document.locate?_eq_some_iff`), and the index enters the question that stands there
(`Document.get?_index_eq_some_iff`). If no two questions have the same identifier, every place is
the first one of its identifier (`Document.locate?_of_nodup`). -/

namespace Questionnaire

namespace Document

variable {document : Document} {id : QuestionId} {coords place : QuestionCoords}
  {question : Question}

/-- The coordinates are the first at which a question has the identifier. -/
structure FirstPlace (document : Document) (id : QuestionId) (coords : QuestionCoords) :
    Prop where
  exists_question : ∃ question, document.question? coords = some question ∧ question.id = id
  /-- Where else a question has the identifier, it comes later. -/
  before : ∀ other question, document.question? other = some question → question.id = id →
    other = coords ∨ coords.Before other

theorem FirstPlace.unique (h : document.FirstPlace id coords)
    (hplace : document.FirstPlace id place) : place = coords := by
  obtain ⟨question, hquestion, hid⟩ := h.exists_question
  obtain ⟨other, hother, hotherId⟩ := hplace.exists_question
  rcases h.before place other hother hotherId with hsame | hlater
  · exact hsame
  · rcases hplace.before coords question hquestion hid with hsame | hearlier
    · exact hsame.symm
    · exact absurd hearlier hlater.asymm

theorem firstPlace_of_locate? (h : document.locate? id = some coords) :
    document.FirstPlace id coords := by
  refine ⟨exists_question?_of_locate? h, fun other question hother hid => ?_⟩
  obtain ⟨entry, hentry, rfl⟩ := Option.map_eq_some_iff.1 h
  obtain ⟨-, earlier, later, hquestions, hearlier⟩ := List.find?_eq_some_iff_append.1 hentry
  have hsorted := pairwise_questions document
  rw [hquestions, List.pairwise_append, List.pairwise_cons] at hsorted
  obtain ⟨-, ⟨hlater, -⟩, -⟩ := hsorted
  have hmem := mem_questions_iff.2 hother
  rw [hquestions, List.mem_append, List.mem_cons] at hmem
  rcases hmem with hmem | hmem | hmem
  · -- the entries in front of the one that is found have other identifiers
    have hne := hearlier _ hmem
    rw [Bool.not_eq_true', beq_eq_false_iff_ne] at hne
    exact absurd hid hne
  · exact .inl (congrArg (·.1) hmem)
  · exact .inr (hlater _ hmem)

theorem exists_locate?_of_question? (hquestion : document.question? coords = some question) :
    ∃ place, document.locate? question.id = some place := by
  have hmem : question ∈ document.sequence := List.mem_map_of_mem (mem_questions_iff.2 hquestion)
  exact Option.isSome_iff_exists.1 (isSome_locate?_iff.2 ⟨question, hmem, rfl⟩)

/-- An identifier is located at its first place. -/
theorem locate?_eq_some_iff :
    document.locate? id = some coords ↔ document.FirstPlace id coords := by
  constructor
  · exact firstPlace_of_locate?
  · intro hfirst
    obtain ⟨question, hquestion, rfl⟩ := hfirst.exists_question
    obtain ⟨place, hplace⟩ := exists_locate?_of_question? hquestion
    rw [hplace, hfirst.unique (firstPlace_of_locate? hplace)]

/-- The index holds the question at the first place of an identifier. -/
theorem get?_index_eq_some_iff : document.index.get? id = some (coords, question) ↔
    document.locate? id = some coords ∧ document.question? coords = some question := by
  rw [locate?_eq]
  constructor
  · intro hentry
    exact ⟨by rw [hentry, Option.map_some], question?_of_get?_index hentry⟩
  · rintro ⟨hlocate, hquestion⟩
    obtain ⟨⟨place, found⟩, hentry, rfl⟩ := Option.map_eq_some_iff.1 hlocate
    have hfound := question?_of_get?_index hentry
    rw [hquestion, Option.some.injEq] at hfound
    rw [hentry, hfound]

/-- Where no two questions share an identifier, a question is found where it stands. -/
theorem locate?_of_nodup (hids : (document.sequence.map (·.id)).Nodup)
    (hquestion : document.question? coords = some question) :
    document.locate? question.id = some coords := by
  rw [sequence, List.map_map] at hids
  obtain ⟨place, hplace⟩ := exists_locate?_of_question? hquestion
  obtain ⟨other, hother, hid⟩ := exists_question?_of_locate? hplace
  have hentry := List.inj_on_of_nodup_map hids (mem_questions_iff.2 hother)
    (mem_questions_iff.2 hquestion) hid
  rw [hplace, (Prod.mk.inj hentry).1]

/-- The questions and the groups are listed once each, by increasing coordinates, and those listed
are those that are found by coordinates; the index and the search for an identifier both lead to
its first place, which is that of every question if no two share an identifier. -/
theorem listings_agree (document : Document) :
    (document.questions.Pairwise (fun a b => a.1.Before b.1) ∧
      ∀ coords question, (coords, question) ∈ document.questions ↔
        document.question? coords = some question) ∧
    (document.groups.Pairwise (fun a b => a.1.coordinates < b.1.coordinates) ∧
      ∀ key group, (key, group) ∈ document.groups ↔ document.group? key = some group) ∧
    (∀ id coords question, document.index.get? id = some (coords, question) ↔
      document.locate? id = some coords ∧ document.question? coords = some question) ∧
    (∀ id coords, document.locate? id = some coords ↔ document.FirstPlace id coords) ∧
    ((document.sequence.map (·.id)).Nodup → ∀ coords question,
      document.question? coords = some question →
        document.locate? question.id = some coords) := by
  refine ⟨⟨pairwise_questions document, ?_⟩, ⟨pairwise_groups document, ?_⟩, ?_, ?_, ?_⟩
  · exact fun coords question => mem_questions_iff
  · exact fun key group => mem_groups_iff
  · exact fun id coords question => get?_index_eq_some_iff
  · exact fun id coords => locate?_eq_some_iff
  · exact fun hids coords question => locate?_of_nodup hids

/-- A form with a page, a section and a group in which nothing is asked. -/
def sparseForm : Document :=
  ⟨"pets.pdf", [⟨"Cover", 1, []⟩, ⟨"Pets", 2, [⟨"", []⟩, ⟨"", [⟨"", false, []⟩, ⟨"", true, [
    { Question.blank with id := "pet" }, { Question.blank with id := "age" }]⟩]⟩]⟩]⟩

/-- What comes before the questions without asking anything counts in their coordinates. -/
theorem listings_agree_sparseForm : (sparseForm.sequence.map (·.id)).Nodup ∧
    sparseForm.locate? "age" = some ⟨1, 1, 1, 1⟩ := by
  have hids : (sparseForm.sequence.map (·.id)).Nodup := by decide
  obtain ⟨-, -, -, -, hdistinct⟩ := listings_agree sparseForm
  exact ⟨hids, hdistinct hids ⟨1, 1, 1, 1⟩ _ rfl⟩

end Document

end Questionnaire
