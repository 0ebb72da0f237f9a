import Questionnaire.Proofs.Document.Import
import Questionnaire.Proofs.Document.Order
import Questionnaire.Proofs.Submission.Completeness

/-! # Free texts beside choices in both submissions

The submission by position holds the free texts beside the choices of a field under the positions
of their options (`Document.HoldsTexts`), the other one under the values of the options
(`ByValue`). A value that several options share has one place for all their texts, so the two hold
the same texts where the values differ. And an empty text, which is no answer where answers go by
position, chooses the options with an empty value all the same (`Question.EmptyChoice`).
`Document.details_agree` says that the submissions agree but for this, and
`Document.exists_details_unlike_leaves` shows both differences. -/

namespace Questionnaire

/-! ### Texts by the values of their options -/

theorem map_fst_enterNamed_of_mem {α : Type} {entries : List (String × α)} {name : String}
    (value : α) (h : name ∈ entries.map (·.1)) :
    (enterNamed entries name value).map (·.1) = entries.map (·.1) := by
  obtain ⟨entry, hentry, rfl⟩ := List.mem_map.1 h
  have hany : entries.any (·.1 == entry.1) = true :=
    List.any_eq_true.2 ⟨entry, hentry, beq_self_eq_true _⟩
  rw [enterNamed, if_pos hany, List.map_map]
  refine List.map_congr_left fun other _ => ?_
  simp only [Function.comp_apply]
  split
  · rename_i hname
    exact (beq_iff_eq.1 hname).symm
  · rfl

theorem eq_or_mem_of_mem_enterNamed {α : Type} {entries : List (String × α)} {name : String}
    {value : α} {entry : String × α} (h : entry ∈ enterNamed entries name value) :
    entry = (name, value) ∨ entry ∈ entries := by
  rw [enterNamed] at h
  split at h
  · obtain ⟨other, hother, heq⟩ := List.mem_map.1 h
    split at heq
    · exact .inl heq.symm
    · exact .inr (heq ▸ hother)
  · exact (List.mem_append.1 h).symm.imp_left List.mem_singleton.1

/-- Free texts, each with its option and the option's position, go by the values of the options:
every value stands once, where its first option does, with the text of an option that has it. -/
structure ByValue (posted : List (Nat × ChoiceOption × String)) (details : List (String × String)) :
    Prop where
  values : details.map (·.1) = (posted.map (·.2.1.value)).eraseDups
  texts : ∀ value text, (value, text) ∈ details →
    ∃ n option, (n, option, text) ∈ posted ∧ option.value = value
  /-- Where no two options share a value, all texts are there, in their order. -/
  distinct : (posted.map (·.2.1.value)).Nodup →
    details = posted.map fun (_, option, text) => (option.value, text)

namespace ByValue

variable {posted : List (Nat × ChoiceOption × String)} {details : List (String × String)}

theorem nil : ByValue [] [] := ⟨rfl, nofun, fun _ => rfl⟩

/-- One more text is entered under the value of its option. -/
theorem enterNamed (h : ByValue posted details) (n : Nat) (option : ChoiceOption) (text : String) :
    ByValue (posted ++ [(n, option, text)])
      (Questionnaire.enterNamed details option.value text) := by
  have hmem : option.value ∈ details.map (·.1) ↔ option.value ∈ posted.map (·.2.1.value) := by
    rw [h.values, List.mem_eraseDups]
  constructor
  · rw [List.map_append, List.eraseDups_append, ← h.values, List.map_singleton]
    by_cases hvalue : option.value ∈ details.map (·.1)
    · rw [map_fst_enterNamed_of_mem text hvalue]
      simp [List.removeAll, hmem.1 hvalue]
    · rw [enterNamed_of_notMem text hvalue, List.map_append]
      simp [List.removeAll, mt hmem.2 hvalue, List.eraseDups_cons]
  · intro value other hother
    rcases eq_or_mem_of_mem_enterNamed hother with heq | hother
    · obtain ⟨rfl, rfl⟩ := Prod.mk.inj heq
      exact ⟨n, option, List.mem_append_right _ (List.mem_singleton_self _), rfl⟩
    · obtain ⟨m, earlier, hearlier, hvalue⟩ := h.texts value other hother
      exact ⟨m, earlier, List.mem_append_left _ hearlier, hvalue⟩
  · intro hdistinct
    rw [List.map_append, List.nodup_append] at hdistinct
    have hnew : option.value ∉ details.map (·.1) := fun hvalue =>
      hdistinct.2.2 _ (hmem.1 hvalue) _ (List.mem_singleton_self _) rfl
    rw [enterNamed_of_notMem text hnew, h.distinct hdistinct.1, List.map_append]
    rfl

theorem foldl_enterNamed (more : List (Nat × ChoiceOption × String)) :
    ∀ {posted : List (Nat × ChoiceOption × String)} {details : List (String × String)},
      ByValue posted details →
      ByValue (posted ++ more) (more.foldl (fun details (_, option, text) =>
        Questionnaire.enterNamed details option.value text) details) := by
  induction more with
  | nil =>
      intro posted details h
      simpa using h
  | cons head more ih =>
      intro posted details h
      have := ih (h.enterNamed head.1 head.2.1 head.2.2)
      rwa [List.append_assoc, List.singleton_append] at this

end ByValue

variable {answers : AnswerStore} {key : String} {question : Question}

theorem byValue_optionDetails (answers : AnswerStore) (key : String) (question : Question) :
    ByValue (optionDetails answers key question) (answerEntry answers key question).details :=
  ByValue.nil.foldl_enterNamed _

/-! ### The texts that are listed -/

/-- The texts are listed in the order of their options. -/
theorem pairwise_optionDetails (answers : AnswerStore) (key : String) (question : Question) :
    (optionDetails answers key question).Pairwise (·.1 < ·.1) := by
  have hposition {entry : ChoiceOption × Nat} {detail : Nat × ChoiceOption × String}
      (h : (if entry.1.requiresInput && chooses (answers.get? key) entry.1.value then
        (detailText? answers key entry.2).map (entry.2, entry.1, ·) else none) = some detail) :
      detail.1 = entry.2 := by
    split at h
    · obtain ⟨text, -, rfl⟩ := Option.map_eq_some_iff.1 h
      rfl
    · cases h
  refine List.pairwise_filterMap.2 ((pairwise_zipIdx question.options).imp ?_)
  intro a b hlt x hx y hy
  rwa [hposition hx, hposition hy]

/-- The answer at a key is the empty text, and so chooses an option whose value is empty; one that
asks for a free text. -/
def Question.EmptyChoice (question : Question) (answers : AnswerStore) (key : String) : Prop :=
  answers.get? key = some (.text "") ∧
    ∃ option ∈ question.options, option.requiresInput = true ∧ option.value = ""

/-- What says nothing chooses nothing, unless the empty text is a choice. -/
theorem exists_truthy_of_mem_optionDetails {detail : Nat × ChoiceOption × String}
    (h : detail ∈ optionDetails answers key question)
    (hempty : ¬ question.EmptyChoice answers key) :
    ∃ answer, answers.get? key = some answer ∧ answer.isTruthy = true := by
  obtain ⟨n, option, text⟩ := detail
  obtain ⟨hoption, hinput, hchosen, -⟩ := Document.mem_optionDetails_iff.1 h
  cases hget : answers.get? key with
  | none =>
      rw [hget] at hchosen
      cases hchosen
  | some answer =>
      refine ⟨answer, rfl, ?_⟩
      rw [hget] at hchosen
      cases answer with
      | text chosen =>
          refine bne_iff_ne.2 fun hchosenEmpty => hempty ?_
          rw [hchosenEmpty] at hget hchosen
          exact ⟨hget, option, List.mem_of_getElem? hoption, hinput, (beq_iff_eq.1 hchosen).symm⟩
      | multi chosen =>
          cases chosen with
          | nil => cases hchosen
          | cons => rfl
      | file => cases hchosen
      | perPerson => cases hchosen

namespace Document

variable {document : Document} {state : FormState} {exportedAt : String} {field : FieldKey}
  {suffix : String} {leaf : Json}

/-! ### The texts by position -/

/-- At the path of a field and a suffix the submission holds what it has to hold for them. -/
theorem at?_indexedSubmission_eq_some_iff (hsuffix : IndexedTree.isSuffix suffix = true) :
    (document.indexedSubmission state exportedAt).at? ("formData" ::
      IndexedTree.path field.groupKey field.instanceIndex (leafName field ++ suffix)) = some leaf ↔
        document.Posts state field suffix leaf := by
  rw [at?_indexedSubmission, IndexedTree.at?_path, leaf?_indexedTree_eq_some_iff]
  constructor
  · rintro ⟨other, suffix', hposts, hgroup, hindex, hname⟩
    have hkey := IndexedTree.keyOf?_eq_some_iff.2 ⟨field, suffix, hsuffix, rfl, rfl⟩
    have hkey' := IndexedTree.keyOf?_eq_some_iff.2 ⟨other, suffix', hposts.isSuffix, rfl, rfl⟩
    rw [hgroup, hindex, ← hname, hkey, Option.some.injEq] at hkey'
    obtain ⟨rfl, rfl⟩ := FieldKey.text_append_inj (IndexedTree.endsCoordinate_of_isSuffix hsuffix)
      (IndexedTree.endsCoordinate_of_isSuffix hposts.isSuffix) hkey'
    exact hposts
  · exact fun hposts => ⟨field, suffix, hposts, rfl, rfl, rfl⟩

/-- The question takes an answer and is shown at the field. -/
structure Asks (document : Document) (state : FormState) (field : FieldKey)
    (question : Question) : Prop where
  found : document.question? field.coords = some question
  answerable : question.answerType.isAnswerable = true
  visible : (document.visibility state .visible).get? field = some true

/-- The free texts, each with its option and the option's position, are those that the submission by
position holds beside the answer of the field, by increasing positions. -/
structure HoldsTexts (document : Document) (state : FormState) (exportedAt : String)
    (field : FieldKey) (posted : List (Nat × ChoiceOption × String)) : Prop where
  increasing : posted.Pairwise (·.1 < ·.1)
  leaves : ∀ n leaf, (document.indexedSubmission state exportedAt).at?
    ("formData" :: IndexedTree.path field.groupKey field.instanceIndex (detailName field n)) =
      some leaf ↔ ∃ option text, (n, option, text) ∈ posted ∧ leaf = .string text

/-- An answer that says something is posted with the texts that are listed beside it. -/
theorem at?_detailName_eq_some_iff (h : document.Asks state field question) {n : Nat} :
    (document.indexedSubmission state exportedAt).at?
      ("formData" :: IndexedTree.path field.groupKey field.instanceIndex (detailName field n)) =
        some leaf ↔
      (∃ answer, state.answers.get? field.text = some answer ∧ answer.isTruthy = true) ∧
        ∃ option text, (n, option, text) ∈ optionDetails state.answers field.text question ∧
          leaf = .string text := by
  rw [detailName_eq, at?_indexedSubmission_eq_some_iff (IndexedTree.isSuffix_iff.2 (.inr ⟨n, rfl⟩))]
  constructor
  · generalize hsuffix : optionDetailKey "" n = suffix
    intro hposts
    cases hposts with
    | answer => exact (optionDetailKey_ne_empty n hsuffix).elim
    | detail hanswered hoption hinput hchosen hstored hne =>
        obtain rfl := optionDetailKey_injective hsuffix
        obtain rfl := Option.some.inj (hanswered.found.symm.trans h.found)
        rw [← hanswered.stored] at hchosen
        exact ⟨⟨_, hanswered.stored, hanswered.truthy⟩, _, _,
          mem_optionDetails_iff.2 ⟨hoption, hinput, hchosen, hstored, hne⟩, rfl⟩
  · rintro ⟨⟨answer, hstored, htruthy⟩, option, text, hmem, rfl⟩
    obtain ⟨hoption, hinput, hchosen, htext, hne⟩ := mem_optionDetails_iff.1 hmem
    rw [hstored] at hchosen
    exact .detail ⟨h.found, h.answerable, h.visible, hstored, htruthy⟩ hoption hinput hchosen htext
      hne

theorem holdsTexts_optionDetails (h : document.Asks state field question)
    (hempty : ¬ question.EmptyChoice state.answers field.text) (exportedAt : String) :
    document.HoldsTexts state exportedAt field
      (optionDetails state.answers field.text question) where
  increasing := pairwise_optionDetails _ _ _
  leaves := by
    intro n leaf
    rw [at?_detailName_eq_some_iff h]
    refine and_iff_right_of_imp ?_
    rintro ⟨option, text, hmem, -⟩
    exact exists_truthy_of_mem_optionDetails hmem hempty

/-- A question that takes an answer and is shown has its entry. -/
theorem Asks.enters (h : document.Asks state field question) (exportedAt : String) :
    document.Enters state (document.interactiveSubmission state exportedAt) field.groupKey
      field.instanceIndex field.text question (answerEntry state.answers field.text question) :=
  enters_iff.2 ⟨field, question, "", mem_visibleFields_iff.2 ⟨h.found, h.visible⟩, h.answerable,
    List.mem_cons_self, rfl, rfl, String.append_empty.symm, rfl⟩

/-- **The free texts beside choices reach both submissions**: what the submission by position holds
beside the answer of a field are the texts that are stored beside chosen options that ask for one,
and the entry of the field's question has them by the values of the options. -/
theorem details_agree (document : Document) (state : FormState) (exportedAt : String)
    (field : FieldKey) (question : Question) (h : document.Asks state field question)
    (hempty : ¬ question.EmptyChoice state.answers field.text) :
    ∃ entry posted,
      document.Enters state (document.interactiveSubmission state exportedAt) field.groupKey
        field.instanceIndex field.text question entry ∧
      document.HoldsTexts state exportedAt field posted ∧ ByValue posted entry.details ∧
      ∀ n option text, (n, option, text) ∈ posted ↔
        question.options[n]? = some option ∧ option.requiresInput = true ∧
          chooses (state.answers.get? field.text) option.value = true ∧
            state.answers.get? (field.optionDetail n) = some (.text text) ∧ text ≠ "" :=
  ⟨_, _, h.enters exportedAt, holdsTexts_optionDetails h hempty exportedAt,
    byValue_optionDetails _ _ _, fun _ _ _ => mem_optionDetails_iff⟩

/-- A text with two questions on a cat: two of the options of the first have one value, and that of
the second has an empty one. -/
def catText : Json :=
  .object [("sourceName", .string "cat.pdf"),
    ("pages", .array [.object [("sections", .array [.object [("groups", .array [.object [
      ("questions", .array [
        .object [("id", .string "food"), ("text", .string "Food?"), ("type", .string "checkbox"),
          ("options", .array [
            .object [("value", .string "other"), ("label", .string "Other dry food"),
              ("requiresInput", .bool true)],
            .object [("value", .string "other"), ("label", .string "Other wet food"),
              ("requiresInput", .bool true)]])],
        .object [("id", .string "vet"), ("text", .string "Vet?"), ("type", .string "dropdown"),
          ("options", .array [
            .object [("value", .string ""), ("label", .string "Another vet"),
              ("requiresInput", .bool true)]])]])]])]])]])]

/-- What the cat eats. -/
def catFood : Question :=
  { Question.blank with
    id := "food", text := "Food?", answerType := .checkbox
    options := [⟨"other", "Other dry food", true, none⟩, ⟨"other", "Other wet food", true, none⟩] }

/-- Who sees the cat. -/
def catVet : Question :=
  { Question.blank with
    id := "vet", text := "Vet?", answerType := .dropdown
    options := [⟨"", "Another vet", true, none⟩] }

/-- The document that the text is imported as. -/
def catDocument : Document :=
  ⟨"cat.pdf", [⟨"", 1, [⟨"", [⟨"", false, [catFood, catVet]⟩]⟩]⟩]⟩

/-- The answers for a cat that eats two other foods and sees another vet. -/
def catAnswers : FormState :=
  ⟨.ofList [("p0_s0_g0_q0_i0", .multi ["other"]), ("p0_s0_g0_q0_i0_opt0", .text "oats"),
    ("p0_s0_g0_q0_i0_opt1", .text "liver"), ("p0_s0_g0_q1_i0", .text ""),
    ("p0_s0_g0_q1_i0_opt0", .text "Dr Roe")], .empty⟩

theorem importBytes_catText :
    importBytes catText.compact.toUTF8.data.toList "form.json" = .ok catDocument := by
  have hlegible : catText.Legible 13 := by simp [catText, Json.Legible.bool]
  rw [importBytes, Json.readBytes_compact hlegible (by decide)]
  rfl

theorem asks_catFood : catDocument.Asks catAnswers ⟨0, 0, 0, 0, 0⟩ catFood :=
  ⟨rfl, by decide, by decide⟩

theorem asks_catVet : catDocument.Asks catAnswers ⟨0, 0, 0, 1, 0⟩ catVet :=
  ⟨rfl, by decide, by decide⟩

/-- Both foods are posted, and one of them has its place in the entry. -/
theorem details_agree_catFood :
    ¬ catFood.EmptyChoice catAnswers.answers (FieldKey.text ⟨0, 0, 0, 0, 0⟩) ∧
    ∃ entry posted,
      catDocument.Enters catAnswers (catDocument.interactiveSubmission catAnswers "now") ⟨0, 0, 0⟩ 0
        (FieldKey.text ⟨0, 0, 0, 0, 0⟩) catFood entry ∧
      catDocument.HoldsTexts catAnswers "now" ⟨0, 0, 0, 0, 0⟩ posted ∧
      (1, ⟨"other", "Other wet food", true, none⟩, "liver") ∈ posted ∧
      entry.details.map (·.1) = (posted.map (·.2.1.value)).eraseDups := by
  have hempty : ¬ catFood.EmptyChoice catAnswers.answers (FieldKey.text ⟨0, 0, 0, 0, 0⟩) := by
    rintro ⟨h, -⟩
    cases h
  obtain ⟨entry, posted, henters, hholds, hvalues, hposted⟩ :=
    details_agree catDocument catAnswers "now" _ _ asks_catFood hempty
  exact ⟨hempty, entry, posted, henters, hholds,
    (hposted _ _ _).2 ⟨rfl, rfl, by decide, by decide, by decide⟩, hvalues.values⟩

/-- The texts in the entry of the field's question are those that the submission by position holds
beside the answer, in their order. -/
def SameTexts (document : Document) (state : FormState) (exportedAt : String) (field : FieldKey)
    (question : Question) : Prop :=
  ∃ entry posted,
    document.Enters state (document.interactiveSubmission state exportedAt) field.groupKey
      field.instanceIndex field.text question entry ∧
    document.HoldsTexts state exportedAt field posted ∧
    entry.details.map (·.2) = posted.map (·.2.2)

/-- Two texts for one value have one place in the entry, and a text beside the empty choice is in
the entry only. -/
theorem exists_details_unlike_leaves :
    importBytes catText.compact.toUTF8.data.toList "form.json" = .ok catDocument ∧
      (catDocument.Asks catAnswers ⟨0, 0, 0, 0, 0⟩ catFood ∧
        ¬ catDocument.SameTexts catAnswers "now" ⟨0, 0, 0, 0, 0⟩ catFood) ∧
      catDocument.Asks catAnswers ⟨0, 0, 0, 1, 0⟩ catVet ∧
        ¬ catDocument.SameTexts catAnswers "now" ⟨0, 0, 0, 1, 0⟩ catVet := by
  refine ⟨importBytes_catText, ⟨asks_catFood, ?_⟩, asks_catVet, ?_⟩
  · rintro ⟨entry, posted, henters, hholds, hsame⟩
    obtain ⟨_, _, _, _, _, _, _, _, _, rfl⟩ := enters_iff.1 henters
    obtain ⟨option, text, hmem, htext⟩ := (hholds.leaves 0 (.string "oats")).1
      ((at?_detailName_eq_some_iff asks_catFood).2
        ⟨⟨_, rfl, by decide⟩, ⟨"other", "Other dry food", true, none⟩, _, by decide, rfl⟩)
    obtain rfl := Json.string.inj htext
    have hoats : "oats" ∈ posted.map (·.2.2) := List.mem_map.2 ⟨_, hmem, rfl⟩
    rw [← hsame] at hoats
    revert hoats
    decide
  · rintro ⟨entry, posted, henters, hholds, hsame⟩
    obtain ⟨_, _, _, _, _, _, _, _, _, rfl⟩ := enters_iff.1 henters
    have hroe : "Dr Roe" ∈ posted.map (·.2.2) := by
      rw [← hsame]
      decide
    obtain ⟨⟨n, option, text⟩, hmem, rfl⟩ := List.mem_map.1 hroe
    obtain ⟨⟨answer, hstored, htruthy⟩, -⟩ := (at?_detailName_eq_some_iff asks_catVet).1
      ((hholds.leaves n _).2 ⟨option, _, hmem, rfl⟩)
    obtain rfl := Option.some.inj hstored
    cases htruthy

end Document

end Questionnaire
