import Mathlib.Data.List.ReduceOption
import Questionnaire.Proofs.Document.Dependency

/-! # The issues of a document

The check of a document keeps in mind only the first question with each identifier. These are the
first ones among all questions that have gone before as well (`SameFirst`), so that the issue of a
question depends on nothing but what stands before and after it (`Question.Raises`), whatever else
is wrong with the document. `Document.checkDependencies_exact` says this of the whole check, and
that without issues whoever follows parent links (`Document.ancestor?`) arrives at a question that
has none. -/

namespace Questionnaire

/-- The issue that a question raises by the questions before and after it. -/
inductive Question.Raises (before : List Question) (question : Question) (after : List Question) :
    DependencyIssue → Prop
  | duplicateId (htaken : ∃ other ∈ before, other.id = question.id) :
      Raises before question after (.duplicateId question.id)
  | parentNotChoice {parent first} (hnew : ∀ other ∈ before, other.id ≠ question.id)
      (hparent : question.parent = some parent)
      (hfirst : before.find? (·.id == parent) = some first)
      (hkind : first.answerType ∉ [.radio, .checkbox, .dropdown]) :
      Raises before question after (.parentNotChoice question.id parent first.answerType)
  | parentNotEarlier {parent} (hnew : ∀ other ∈ before, other.id ≠ question.id)
      (hparent : question.parent = some parent) (hlate : ∀ other ∈ before, other.id ≠ parent)
      (hthere : ∃ other ∈ question :: after, other.id = parent) :
      Raises before question after (.parentNotEarlier question.id parent)
  | unknownParent {parent} (hnew : ∀ other ∈ before, other.id ≠ question.id)
      (hparent : question.parent = some parent)
      (hnowhere : ∀ other ∈ before ++ question :: after, other.id ≠ parent) :
      Raises before question after (.unknownParent question.id parent)

theorem AnswerType.canBeParent_eq_true_iff {kind : AnswerType} :
    kind.canBeParent = true ↔ kind ∈ [.radio, .checkbox, .dropdown] := by
  cases kind <;> decide

theorem any_id_eq_true_iff {questions : List Question} {id : QuestionId} :
    questions.any (·.id == id) = true ↔ ∃ other ∈ questions, other.id = id := by
  simp only [List.any_eq_true, beq_iff_eq]

theorem find?_id_eq_none_iff {questions : List Question} {id : QuestionId} :
    questions.find? (·.id == id) = none ↔ ∀ other ∈ questions, other.id ≠ id := by
  simp only [List.find?_eq_none, beq_iff_eq, ne_eq]

/-! ### First questions -/

/-- Two rows of questions have the same first question with every identifier. -/
def SameFirst (earlier before : List Question) : Prop :=
  ∀ id, earlier.find? (·.id == id) = before.find? (·.id == id)

/-- The questions with new identifiers after one more question. -/
def seenAfter (earlier : List Question) (question : Question) : List Question :=
  if earlier.any (·.id == question.id) then earlier else earlier ++ [question]

namespace SameFirst

variable {earlier before : List Question}

theorem any_eq (h : SameFirst earlier before) (id : QuestionId) :
    earlier.any (·.id == id) = before.any (·.id == id) := by
  rw [← List.isSome_find?, ← List.isSome_find?, h id]

/-- A question whose identifier has been used before is no first one. -/
theorem repeated (h : SameFirst earlier before) {question : Question}
    (htaken : before.any (·.id == question.id) = true) :
    SameFirst earlier (before ++ [question]) := by
  intro id
  rw [h id, List.find?_append]
  cases hfound : before.find? (·.id == id) with
  | some found => rfl
  | none =>
      have hne : question.id ≠ id := by
        rintro rfl
        rw [← List.isSome_find?, hfound] at htaken
        cases htaken
      simp [hne]

theorem concat (h : SameFirst earlier before) (question : Question) :
    SameFirst (earlier ++ [question]) (before ++ [question]) := by
  intro id
  rw [List.find?_append, List.find?_append, h id]

theorem seenAfter (h : SameFirst earlier before) (question : Question) :
    SameFirst (Questionnaire.seenAfter earlier question) (before ++ [question]) := by
  rw [Questionnaire.seenAfter]
  split
  · rename_i htaken
    rw [h.any_eq] at htaken
    exact h.repeated htaken
  · exact h.concat question

end SameFirst

namespace Document

variable {document : Document} {earlier before after rest : List Question} {question : Question}

/-! ### The issue of a question -/

/-- The issue of a question, given the questions with new identifiers before it. -/
def issue? (document : Document) (earlier : List Question) (question : Question) :
    Option DependencyIssue :=
  if earlier.any (·.id == question.id) then some (.duplicateId question.id)
  else document.linkIssue? earlier question

theorem issuesAfter_cons (document : Document) (earlier : List Question) (question : Question)
    (rest : List Question) : document.issuesAfter earlier (question :: rest) =
      (document.issue? earlier question).toList
        ++ document.issuesAfter (seenAfter earlier question) rest := by
  rw [issuesAfter, issue?, seenAfter]
  split
  · rfl
  · rfl

/-- The issue of a parent link to a question that goes before. -/
theorem linkIssue?_of_found {parent : QuestionId} {first : Question}
    (hparent : question.parent = some parent)
    (hfirst : earlier.find? (·.id == parent) = some first) :
    document.linkIssue? earlier question =
      if first.answerType.canBeParent then none
      else some (.parentNotChoice question.id parent first.answerType) := by
  rw [linkIssue?, hparent, Option.bind_eq_bind, Option.bind_some, hfirst]

/-- The issue of a parent link to a question that does not go before. -/
theorem linkIssue?_of_not_found {parent : QuestionId} (hparent : question.parent = some parent)
    (hlate : earlier.find? (·.id == parent) = none) :
    document.linkIssue? earlier question =
      if (document.locate? parent).isSome then some (.parentNotEarlier question.id parent)
      else some (.unknownParent question.id parent) := by
  rw [linkIssue?, hparent, Option.bind_eq_bind, Option.bind_some, hlate]

/-- A question has the issue that it raises. -/
theorem issue?_of_raises (h : SameFirst earlier before)
    (hrow : document.sequence = before ++ question :: after) {issue : DependencyIssue}
    (hraises : question.Raises before after issue) :
    document.issue? earlier question = some issue := by
  have hunseen (hnew : ∀ other ∈ before, other.id ≠ question.id) :
      ¬ earlier.any (·.id == question.id) = true := by
    rw [h.any_eq, any_id_eq_true_iff]
    rintro ⟨other, hother, hid⟩
    exact hnew other hother hid
  rw [issue?]
  cases hraises with
  | duplicateId htaken => rw [if_pos (by rw [h.any_eq, any_id_eq_true_iff]; exact htaken)]
  | parentNotChoice hnew hparent hfirst hkind =>
      rw [if_neg (hunseen hnew), linkIssue?_of_found hparent ((h _).trans hfirst), if_neg]
      rwa [AnswerType.canBeParent_eq_true_iff]
  | parentNotEarlier hnew hparent hlate hthere =>
      rw [if_neg (hunseen hnew),
        linkIssue?_of_not_found hparent ((h _).trans (find?_id_eq_none_iff.2 hlate)), if_pos]
      obtain ⟨other, hother, hid⟩ := hthere
      rw [isSome_locate?_iff, hrow]
      exact ⟨other, List.mem_append_right _ hother, hid⟩
  | unknownParent hnew hparent hnowhere =>
      have hlate := find?_id_eq_none_iff.2 fun other hother =>
        hnowhere other (List.mem_append_left _ hother)
      rw [if_neg (hunseen hnew), linkIssue?_of_not_found hparent ((h _).trans hlate), if_neg]
      rw [isSome_locate?_iff, hrow]
      rintro ⟨other, hother, hid⟩
      exact hnowhere other hother hid

/-- A question raises the issue that it has. -/
theorem raises_of_issue? (h : SameFirst earlier before)
    (hrow : document.sequence = before ++ question :: after) {issue : DependencyIssue}
    (hissue : document.issue? earlier question = some issue) :
    question.Raises before after issue := by
  rw [issue?] at hissue
  split at hissue
  · rename_i htaken
    rw [h.any_eq, any_id_eq_true_iff] at htaken
    obtain rfl := Option.some.inj hissue
    exact .duplicateId htaken
  · rename_i hunseen
    have hnew : ∀ other ∈ before, other.id ≠ question.id := by
      rw [h.any_eq, any_id_eq_true_iff] at hunseen
      exact fun other hother hid => hunseen ⟨other, hother, hid⟩
    obtain ⟨parent, hparent, -⟩ := Option.bind_eq_some_iff.1 hissue
    cases hfirst : before.find? (·.id == parent) with
    | some first =>
        rw [linkIssue?_of_found hparent ((h parent).trans hfirst)] at hissue
        obtain ⟨hkind, hissue⟩ := Option.ite_none_left_eq_some.1 hissue
        obtain rfl := Option.some.inj hissue
        exact .parentNotChoice hnew hparent hfirst (mt AnswerType.canBeParent_eq_true_iff.2 hkind)
    | none =>
        have hlate := find?_id_eq_none_iff.1 hfirst
        rw [linkIssue?_of_not_found hparent ((h parent).trans hfirst)] at hissue
        split at hissue
        · -- the parent is there, so it stands at the question or after it
          rename_i hthere
          obtain ⟨other, hother, hid⟩ := isSome_locate?_iff.1 hthere
          rw [hrow] at hother
          obtain rfl := Option.some.inj hissue
          refine .parentNotEarlier hnew hparent hlate ⟨other, ?_, hid⟩
          exact (List.mem_append.1 hother).resolve_left fun hbefore => hlate other hbefore hid
        · rename_i hnowhere
          rw [isSome_locate?_iff, hrow] at hnowhere
          obtain rfl := Option.some.inj hissue
          exact .unknownParent hnew hparent fun other hother hid => hnowhere ⟨other, hother, hid⟩

theorem issue?_eq_some_iff (h : SameFirst earlier before)
    (hrow : document.sequence = before ++ question :: after) {issue : DependencyIssue} :
    document.issue? earlier question = some issue ↔ question.Raises before after issue :=
  ⟨raises_of_issue? h hrow, issue?_of_raises h hrow⟩

/-! ### The issues of a row -/

/-- The check marks every question of a row with the issue that it raises, if it raises one, and
lists the marks. -/
theorem exists_marks_issuesAfter (h : SameFirst earlier before)
    (hrow : document.sequence = before ++ rest) :
    ∃ marks : List (Option DependencyIssue), marks.length = rest.length ∧
      document.issuesAfter earlier rest = marks.reduceOption ∧
      ∀ passed question after, rest = passed ++ question :: after → ∀ issue,
        marks[passed.length]? = some (some issue) ↔
          question.Raises (before ++ passed) after issue := by
  induction rest generalizing earlier before with
  | nil =>
      refine ⟨[], rfl, rfl, fun passed question after hrest => ?_⟩
      simp at hrest
  | cons question rest ih =>
      obtain ⟨marks, hlength, hmarks, hraises⟩ := ih (h.seenAfter question) (by simpa using hrow)
      refine ⟨document.issue? earlier question :: marks, by rw [List.length_cons, hlength,
        List.length_cons], ?_, fun passed other after hrest issue => ?_⟩
      · rw [issuesAfter_cons, hmarks, ← List.reduceOption_singleton, ← List.reduceOption_append,
          List.singleton_append]
      · cases passed with
        | nil =>
            obtain ⟨rfl, rfl⟩ := List.cons.inj hrest
            rw [List.length_nil, List.getElem?_cons_zero, Option.some.injEq, List.append_nil]
            exact issue?_eq_some_iff h hrow
        | cons head passed =>
            obtain ⟨rfl, htail⟩ := List.cons.inj hrest
            rw [List.length_cons, List.getElem?_cons_succ, hraises passed other after htail issue,
              List.append_assoc, List.singleton_append]

/-! ### Following parent links -/

/-- The question that the parent link of a question leads to. -/
def parentOf? (document : Document) (question : Question) : Option Question := do
  let (_, parent) ← document.index.get? (← question.parent)
  return parent

/-- The question at which one arrives after a number of parent links. -/
def ancestor? (document : Document) : Nat → Question → Option Question
  | 0, question => some question
  | n + 1, question => (document.parentOf? question).bind (document.ancestor? n)

/-- In a linked row a parent link leads to a question before it. -/
theorem exists_parentOf?_eq_some (h : Linked document.sequence)
    (hrow : document.sequence = before ++ question :: after) {parent : QuestionId}
    (hparent : question.parent = some parent) :
    ∃ found ∈ before, document.parentOf? question = some found := by
  obtain ⟨found, hfound, hid, -⟩ := h.links before question after hrow parent hparent
  have hmem : found ∈ document.sequence := by
    rw [hrow]
    exact List.mem_append_left _ hfound
  obtain ⟨entry, hentry⟩ : ∃ entry, document.index.get? parent = some entry := by
    obtain ⟨entry, hentry, rfl⟩ := List.mem_map.1 hmem
    rw [get?_index, ← Option.isSome_iff_exists, List.find?_isSome]
    exact ⟨entry, hentry, beq_iff_eq.2 hid⟩
  -- no other question has the identifier
  have hsame : entry.2 = found := by
    have hindex := hentry
    rw [get?_index] at hindex
    refine eq_of_id_eq h.ids (List.mem_map_of_mem (List.mem_of_find?_eq_some hindex)) hmem ?_
    have hentryId := List.find?_some hindex
    rw [hid]
    simpa using hentryId
  exact ⟨found, hfound, by simp [parentOf?, hparent, hentry, hsame]⟩

/-- In a linked row whoever follows parent links from a position arrives at a question without one
after at most as many steps. -/
theorem exists_root_of_linked (h : Linked document.sequence) (before : List Question) :
    ∀ {question after}, document.sequence = before ++ question :: after →
      ∃ n ≤ before.length, ∃ root, document.ancestor? n question = some root ∧
        root.parent = none := by
  induction hlength : before.length using Nat.strongRecOn generalizing before with
  | ind k ih =>
      intro question after hrow
      cases hparent : question.parent with
      | none => exact ⟨0, Nat.zero_le _, question, rfl, hparent⟩
      | some parent =>
          obtain ⟨found, hfound, hlink⟩ := exists_parentOf?_eq_some h hrow hparent
          obtain ⟨first, rest, rfl⟩ := List.append_of_mem hfound
          have hlt : first.length < k := by
            rw [← hlength, List.length_append, List.length_cons]
            omega
          obtain ⟨n, hn, root, hroot, hnone⟩ := ih first.length hlt first rfl
            (hrow.trans (List.append_assoc _ _ _))
          refine ⟨n + 1, by omega, root, ?_, hnone⟩
          rw [ancestor?, hlink, Option.bind_some, hroot]

/-! ### The whole check -/

/-- **The check is exact**: it lists in document order the issues that the questions raise, at most
one for each. There is none exactly if no two questions share an identifier and every parent link
goes back to a choice question, and then whoever follows parent links arrives at a question without
one after fewer steps than there are questions. -/
theorem checkDependencies_exact (document : Document) :
    (∃ marks : List (Option DependencyIssue), marks.length = document.totalQuestions ∧
      document.checkDependencies = marks.reduceOption ∧
      ∀ before question after, document.sequence = before ++ question :: after → ∀ issue,
        marks[before.length]? = some (some issue) ↔ question.Raises before after issue) ∧
    (document.checkDependencies = [] ↔ Linked document.sequence) ∧
    (document.checkDependencies = [] → ∀ question ∈ document.sequence,
      ∃ n < document.totalQuestions, ∃ root, document.ancestor? n question = some root ∧
        root.parent = none) := by
  have hcount : document.sequence.length = document.totalQuestions := by
    rw [sequence, List.length_map, totalQuestions]
  refine ⟨?_, checkDependencies_eq_nil_iff, fun h question hquestion => ?_⟩
  · obtain ⟨marks, hlength, hmarks, hraises⟩ := exists_marks_issuesAfter
      (fun _ => rfl : SameFirst [] []) (List.nil_append document.sequence).symm
    exact ⟨marks, hlength.trans hcount, hmarks, by simpa using hraises⟩
  · obtain ⟨before, after, hrow⟩ := List.append_of_mem hquestion
    obtain ⟨n, hn, hroot⟩ := exists_root_of_linked (checkDependencies_eq_nil_iff.1 h) before hrow
    refine ⟨n, ?_, hroot⟩
    rw [← hcount, hrow, List.length_append, List.length_cons]
    omega

/-- A parent that comes too late, one that is no choice question and one that is missing are
reported, and so is the second question with an identifier, but nothing else about it. -/
example : checkDependencies ⟨"", [⟨"", 1, [⟨"", [⟨"", false, [
    { Question.blank with id := "name", parent := some "owner" },
    { Question.blank with id := "owner" },
    { Question.blank with id := "owner", answerType := .radio, parent := some "vet" },
    { Question.blank with id := "breed", parent := some "owner" },
    { Question.blank with id := "age", parent := some "vet" }]⟩]⟩]⟩]⟩ =
    [.parentNotEarlier "name" "owner", .duplicateId "owner",
      .parentNotChoice "breed" "owner" .text, .unknownParent "age" "vet"] := by decide

/-- The name of a dog that is asked for only if there are pets and they are dogs. -/
def dogName : Question := { Question.blank with id := "name", parent := some "dogs" }

/-- A form that asks about pets, then about dogs and then for a name. -/
def kennel : Document :=
  ⟨"kennel.pdf", [⟨"", 1, [⟨"", [⟨"", false, [
    { Question.blank with id := "pets", answerType := .radio },
    { Question.blank with id := "dogs", answerType := .checkbox, parent := some "pets" },
    dogName]⟩]⟩]⟩]⟩

/-- The links from the name lead to the question about pets. -/
theorem checkDependencies_exact_kennel : kennel.checkDependencies = [] ∧
    ∃ n < 3, ∃ root, kennel.ancestor? n dogName = some root ∧ root.parent = none := by
  have hconsistent : kennel.checkDependencies = [] := by decide
  exact ⟨hconsistent, (checkDependencies_exact kennel).2.2 hconsistent dogName (by simp [
    sequence, questions, groups, questionsAt, kennel])⟩

end Document

end Questionnaire
