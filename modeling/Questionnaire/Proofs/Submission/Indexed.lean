import Questionnaire.Proofs.Address
import Questionnaire.Proofs.Submission.IndexedTree
import Questionnaire.Proofs.Visibility

/-! # Reading back a submission by position

`IndexedTree.keyOf?` reads the path of an answer back as the key that the answer is stored under;
it accepts exactly the paths of the submission's form and reads no two of them alike
(`IndexedTree.keyOf?_eq_some_iff`). `Document.Posts` says which answers a submission has to hold,
and `Document.indexedSubmission_exact` that reading one back gives these, each once, and that no
object of it is empty. -/

namespace Questionnaire

namespace IndexedTree

/-! ### Names -/

/-- The number that a part's name ends with, up to an underscore, and the rest of the name. -/
def splitNumbered? (part name : String) : Option (Nat × String) :=
  let digits := name.toList.drop (part.length + 1)
  let n := Decimal.value (digits.takeWhile (· != '_'))
  let rest := String.ofList (digits.dropWhile (· != '_'))
  if name = numberedName part n ++ rest then some (n, rest) else none

/-- The number of a part. -/
def numberOf? (part name : String) : Option Nat :=
  match splitNumbered? part name with
  | some (n, rest) => if rest = "" then some n else none
  | none => none

/-- Whether a text may follow a question's name: it is empty, or names an option. -/
def isSuffix (suffix : String) : Bool :=
  suffix = "" || suffix = optionDetailKey "" (Decimal.value (suffix.toList.drop 4))

/-- The key that a path spells. -/
def keyOf? : List String → Option String
  | [page, "sections", part, "groups", group, "instances", instanceName, name] => do
    let p ← numberOf? "page" page
    let s ← numberOf? "section" part
    let g ← numberOf? "group" group
    let i ← numberOf? "instance" instanceName
    let (q, suffix) ← splitNumbered? "question" name
    if isSuffix suffix then some ((FieldKey.mk p s g q i).text ++ suffix) else none
  | _ => none

theorem toList_numberedName_append (part : String) (n : Nat) (rest : String) :
    (numberedName part n ++ rest).toList =
      (part.toList ++ ['_']) ++ (Decimal.print n ++ rest.toList) := by
  simp [numberedName]

theorem splitNumbered?_eq_some_iff {part name rest : String} {n : Nat} :
    splitNumbered? part name = some (n, rest) ↔
      name = numberedName part n ++ rest ∧ EndsCoordinate rest.toList := by
  constructor
  · intro h
    simp only [splitNumbered?] at h
    split at h
    · rename_i hname
      obtain ⟨rfl, rfl⟩ := Prod.mk.inj (Option.some.inj h)
      refine ⟨hname, ?_⟩
      rw [String.toList_ofList]
      exact endsCoordinate_dropWhile _
    · cases h
  · rintro ⟨rfl, hends⟩
    have hdrop : (numberedName part n ++ rest).toList.drop (part.length + 1) =
        Decimal.print n ++ rest.toList := by
      rw [toList_numberedName_append]
      exact List.drop_left' (by simp [String.length_toList])
    simp only [splitNumbered?, hdrop, takeWhile_print_append n hends,
      dropWhile_print_append n hends, Decimal.value_print, String.ofList_toList, if_true]

theorem numberOf?_eq_some_iff {part name : String} {n : Nat} :
    numberOf? part name = some n ↔ name = numberedName part n := by
  have hsplit := @splitNumbered?_eq_some_iff part name "" n
  rw [String.append_empty] at hsplit
  unfold numberOf?
  constructor
  · intro h
    split at h
    · rename_i m rest hm
      split at h
      · rename_i hrest
        subst hrest
        obtain rfl := Option.some.inj h
        exact (hsplit.1 hm).1
      · cases h
    · cases h
  · intro h
    rw [hsplit.2 ⟨h, endsCoordinate_nil⟩]
    rfl

theorem isSuffix_iff {suffix : String} :
    isSuffix suffix = true ↔ suffix = "" ∨ ∃ n, suffix = optionDetailKey "" n := by
  simp only [isSuffix, Bool.or_eq_true, decide_eq_true_eq]
  refine or_congr_right ⟨fun h => ⟨_, h⟩, ?_⟩
  rintro ⟨n, rfl⟩
  rw [toList_optionDetailKey, List.drop_left' (by rfl), Decimal.value_print]

theorem endsCoordinate_of_isSuffix {suffix : String} (h : isSuffix suffix = true) :
    EndsCoordinate suffix.toList := by
  rcases isSuffix_iff.1 h with rfl | ⟨n, rfl⟩
  · exact endsCoordinate_nil
  · exact endsCoordinate_optionDetailKey n

/-- A path spells a key exactly if it is the path of a question's answer or of a free text beside
one of its choices. -/
theorem keyOf?_eq_some_iff {names : List String} {key : String} :
    keyOf? names = some key ↔ ∃ (field : FieldKey) (suffix : String), isSuffix suffix = true ∧
      names = path field.groupKey field.instanceIndex (leafName field ++ suffix) ∧
      key = field.text ++ suffix := by
  constructor
  · intro h
    unfold keyOf? at h
    split at h
    · simp only [Option.bind_eq_bind, Option.bind_eq_some_iff, numberOf?_eq_some_iff, Prod.exists,
        splitNumbered?_eq_some_iff] at h
      obtain ⟨p, rfl, s, rfl, g, rfl, i, rfl, q, suffix, ⟨rfl, -⟩, h⟩ := h
      split at h
      · rename_i hsuffix
        exact ⟨⟨p, s, g, q, i⟩, suffix, hsuffix, rfl, (Option.some.inj h).symm⟩
      · cases h
    · cases h
  · rintro ⟨field, suffix, hsuffix, rfl, rfl⟩
    have hname := splitNumbered?_eq_some_iff.2
      (⟨rfl, endsCoordinate_of_isSuffix hsuffix⟩ : leafName field ++ suffix = _ ∧ _)
    simp only [path, instancePath, groupPath, List.cons_append, List.nil_append, keyOf?,
      Option.bind_eq_bind, numberOf?_eq_some_iff.2 rfl, hname, Option.bind_some, hsuffix, if_true]
    rfl

/-- No two paths spell one key. -/
theorem keyOf?_inj {a b : List String} {key : String} (ha : keyOf? a = some key)
    (hb : keyOf? b = some key) : a = b := by
  obtain ⟨field, suffix, hsuffix, rfl, rfl⟩ := keyOf?_eq_some_iff.1 ha
  obtain ⟨field', suffix', hsuffix', rfl, hkey⟩ := keyOf?_eq_some_iff.1 hb
  obtain ⟨rfl, rfl⟩ := FieldKey.text_append_inj (endsCoordinate_of_isSuffix hsuffix)
    (endsCoordinate_of_isSuffix hsuffix') hkey
  rfl

/-- The answers of a submission by the keys that their paths spell; none if a path spells no
key. -/
def readBack (formData : Json) : Option (List (String × Json)) :=
  (Json.leaves 8 formData).mapM fun (names, leaf) => (keyOf? names).map (·, leaf)

theorem mapM_eq_some_filterMap {α β : Type} {f : α → Option β} {entries : List α}
    (h : ∀ entry ∈ entries, ∃ value, f entry = some value) :
    entries.mapM f = some (entries.filterMap f) := by
  induction entries with
  | nil => rfl
  | cons head rest ih =>
      obtain ⟨value, hvalue⟩ := h head List.mem_cons_self
      rw [List.mapM_cons, hvalue, ih fun entry hentry => h entry (List.mem_cons_of_mem _ hentry),
        List.filterMap_cons, hvalue]
      rfl

end IndexedTree

/-! ### What a submission has to hold -/

namespace Document

/-- The answer says something, and its question takes an answer and is shown. -/
structure Answered (document : Document) (state : FormState) (field : FieldKey)
    (question : Question) (answer : AnswerValue) : Prop where
  found : document.question? field.coords = some question
  answerable : question.answerType.isAnswerable = true
  visible : (document.visibility state .visible).get? field = some true
  stored : state.answers.get? field.text = some answer
  truthy : answer.isTruthy = true

/-- What a submission has to hold for a field: its answer, and under the suffix of every option that
the answer chooses and that asks for a free text the text stored beside it, if there is one. -/
inductive Posts (document : Document) (state : FormState) (field : FieldKey) : String → Json → Prop
  | answer {question answer} (h : document.Answered state field question answer) :
      Posts document state field "" answer.submitted
  | detail {question answer n} {option : ChoiceOption} {text : String}
      (h : document.Answered state field question answer)
      (hoption : question.options[n]? = some option) (hinput : option.requiresInput = true)
      (hchosen : chooses (some answer) option.value = true)
      (hstored : state.answers.get? (field.optionDetail n) = some (.text text))
      (hne : text ≠ "") :
      Posts document state field (optionDetailKey "" n) (.string text)

variable {document : Document} {state : FormState} {field : FieldKey} {suffix : String}
  {value : Json}

theorem Posts.isSuffix (h : document.Posts state field suffix value) :
    IndexedTree.isSuffix suffix = true := by
  cases h with
  | answer => exact IndexedTree.isSuffix_iff.2 (.inl rfl)
  | detail => exact IndexedTree.isSuffix_iff.2 (.inr ⟨_, rfl⟩)

/-- There is one value for a field and a suffix. -/
theorem Posts.value_eq {other : Json} (h : document.Posts state field suffix value) :
    document.Posts state field suffix other → value = other := by
  generalize hsuffix : suffix = second
  intro hother
  cases h with
  | answer h =>
      cases hother with
      | answer h' =>
          have := h.stored.symm.trans h'.stored
          rw [Option.some.inj this]
      | detail => exact (optionDetailKey_ne_empty _ hsuffix.symm).elim
  | detail h _ _ _ hstored =>
      cases hother with
      | answer => exact (optionDetailKey_ne_empty _ hsuffix).elim
      | detail h' _ _ _ hstored' =>
          obtain rfl := optionDetailKey_injective hsuffix
          have := hstored.symm.trans hstored'
          rw [AnswerValue.text.inj (Option.some.inj this)]

/-- The free texts that are listed stand beside chosen options that ask for one. -/
theorem mem_optionDetails_iff {answers : AnswerStore} {key : String} {question : Question} {n : Nat}
    {option : ChoiceOption} {text : String} :
    (n, option, text) ∈ optionDetails answers key question ↔
      question.options[n]? = some option ∧ option.requiresInput = true ∧
        chooses (answers.get? key) option.value = true ∧
          answers.get? (optionDetailKey key n) = some (.text text) ∧ text ≠ "" := by
  have htext : detailText? answers key n = some text ↔
      answers.get? (optionDetailKey key n) = some (.text text) ∧ text ≠ "" := by
    simp only [detailText?, Option.filter_eq_some_iff, Option.bind_eq_some_iff, bne_iff_ne]
    refine and_congr_left fun _ => ⟨?_, fun h => ⟨_, h, rfl⟩⟩
    rintro ⟨answer, hget, hanswer⟩
    cases answer with
    | text => rw [hget, Option.some.inj hanswer]
    | multi => cases hanswer
    | file => cases hanswer
    | perPerson => cases hanswer
  simp only [optionDetails, List.mem_filterMap, Prod.exists, List.mem_zipIdx_iff_getElem?]
  constructor
  · rintro ⟨option, n, hoption, h⟩
    split at h
    · rename_i hchosen
      obtain ⟨_, hdetail, heq⟩ := Option.map_eq_some_iff.1 h
      simp only [Prod.mk.injEq] at heq
      obtain ⟨rfl, rfl, rfl⟩ := heq
      rw [Bool.and_eq_true] at hchosen
      exact ⟨hoption, hchosen.1, hchosen.2, htext.1 hdetail⟩
    · cases h
  · rintro ⟨hoption, hinput, hchosen, hstored⟩
    refine ⟨option, n, hoption, ?_⟩
    rw [hinput, hchosen, Bool.and_self, if_pos rfl, htext.2 hstored]
    rfl

theorem mem_indexedLeaves_iff {answers : AnswerStore} {question : Question} {name : String} :
    (name, value) ∈ indexedLeaves answers field question ↔
      ∃ answer, answers.get? field.text = some answer ∧ answer.isTruthy = true ∧
        ((name = leafName field ∧ value = answer.submitted) ∨ ∃ n option text,
          (n, option, text) ∈ optionDetails answers field.text question ∧
            name = detailName field n ∧ value = .string text) := by
  unfold indexedLeaves AnswerStore.field?
  cases hget : answers.get? field.text with
  | none => simp
  | some answer =>
      simp only [Option.some.injEq, exists_eq_left']
      by_cases htruthy : answer.isTruthy = true
      · simp only [htruthy, if_true, true_and, List.mem_cons, Prod.mk.injEq, List.mem_map,
          Prod.exists]
        refine or_congr_right ⟨?_, ?_⟩
        · rintro ⟨n, option, text, hmem, rfl, rfl⟩
          exact ⟨n, option, text, hmem, rfl, rfl⟩
        · rintro ⟨n, option, text, hmem, rfl, rfl⟩
          exact ⟨n, option, text, hmem, rfl, rfl⟩
      · simp [htruthy]

theorem detailName_eq (field : FieldKey) (n : Nat) :
    detailName field n = leafName field ++ optionDetailKey "" n := optionDetailKey_eq _ n

/-- The answers that are entered are those that the submission has to hold. -/
theorem mem_indexedAnswers_iff {name : String} :
    (field, name, value) ∈ document.indexedAnswers state ↔
      ∃ suffix, document.Posts state field suffix value ∧ name = leafName field ++ suffix := by
  simp only [indexedAnswers, List.mem_flatMap, Prod.exists, mem_visibleFields_iff]
  constructor
  · rintro ⟨key, question, ⟨hfound, hvisible⟩, h⟩
    split at h
    · rename_i hanswerable
      obtain ⟨⟨name, value⟩, hleaf, heq⟩ := List.mem_map.1 h
      simp only [Prod.mk.injEq] at heq
      obtain ⟨rfl, rfl, rfl⟩ := heq
      obtain ⟨answer, hstored, htruthy, hcase⟩ := mem_indexedLeaves_iff.1 hleaf
      have hanswered : document.Answered state key question answer :=
        ⟨hfound, hanswerable, hvisible, hstored, htruthy⟩
      rcases hcase with ⟨rfl, rfl⟩ | ⟨n, option, text, hmem, rfl, rfl⟩
      · exact ⟨"", .answer hanswered, String.append_empty.symm⟩
      · obtain ⟨hoption, hinput, hchosen, htext, hne⟩ := mem_optionDetails_iff.1 hmem
        rw [hstored] at hchosen
        exact ⟨_, .detail hanswered hoption hinput hchosen htext hne, detailName_eq key n⟩
    · cases h
  · rintro ⟨suffix, hposts, rfl⟩
    have hentered {question : Question} {answer : AnswerValue} {name : String}
        (h : document.Answered state field question answer)
        (hleaf : (name, value) ∈ indexedLeaves state.answers field question) :
        ∃ key question, (document.question? key.coords = some question ∧
          (document.visibility state .visible).get? key = some true) ∧
            (field, name, value) ∈ if question.answerType.isAnswerable then
              (indexedLeaves state.answers key question).map (key, ·) else [] := by
      refine ⟨field, question, ⟨h.found, h.visible⟩, ?_⟩
      rw [if_pos h.answerable]
      exact List.mem_map.2 ⟨_, hleaf, rfl⟩
    cases hposts with
    | answer h =>
        refine hentered h (mem_indexedLeaves_iff.2 ⟨_, h.stored, h.truthy, .inl ⟨?_, rfl⟩⟩)
        exact String.append_empty
    | detail h hoption hinput hchosen hstored hne =>
        rw [← h.stored] at hchosen
        have hmem := mem_optionDetails_iff.2 ⟨hoption, hinput, hchosen, hstored, hne⟩
        exact hentered h (mem_indexedLeaves_iff.2 ⟨_, h.stored, h.truthy,
          .inr ⟨_, _, _, hmem, (detailName_eq field _).symm, rfl⟩⟩)

/-- A place of the tree holds what the submission has to hold for it. -/
theorem leaf?_indexedTree_eq_some_iff {group : GroupKey} {i : Nat} {name : String} :
    (document.indexedTree state).leaf? group i name = some value ↔ ∃ field suffix,
      document.Posts state field suffix value ∧ field.groupKey = group ∧
        field.instanceIndex = i ∧ name = leafName field ++ suffix := by
  rw [indexedTree, IndexedTree.leaf?_foldl_enter_eq_some_iff]
  · simp only [mem_indexedAnswers_iff]
    constructor
    · rintro ⟨field, ⟨suffix, hposts, hname⟩, hgroup, hi⟩
      exact ⟨field, suffix, hposts, hgroup, hi, hname⟩
    · rintro ⟨field, suffix, hposts, hgroup, hi, hname⟩
      exact ⟨field, ⟨suffix, hposts, hname⟩, hgroup, hi⟩
  · -- the place and the name determine the field and the suffix
    rintro ⟨field, name, value⟩ ha ⟨field', _, value'⟩ hb hgroup hi rfl
    obtain ⟨suffix, hposts, rfl⟩ := mem_indexedAnswers_iff.1 ha
    obtain ⟨suffix', hposts', hname⟩ := mem_indexedAnswers_iff.1 hb
    have hkey := IndexedTree.keyOf?_eq_some_iff.2 ⟨field, suffix, hposts.isSuffix, rfl, rfl⟩
    have hkey' := IndexedTree.keyOf?_eq_some_iff.2 ⟨field', suffix', hposts'.isSuffix, rfl, rfl⟩
    rw [← hgroup, ← hi, ← hname, hkey, Option.some.injEq] at hkey'
    obtain ⟨rfl, rfl⟩ := FieldKey.text_append_inj
      (IndexedTree.endsCoordinate_of_isSuffix hposts.isSuffix)
      (IndexedTree.endsCoordinate_of_isSuffix hposts'.isSuffix) hkey'
    exact hposts.value_eq hposts'

theorem full_indexedTree (document : Document) (state : FormState) :
    (document.indexedTree state).Full :=
  IndexedTree.full_foldl_enter _ IndexedTree.full_empty

theorem field?_indexedSubmission (document : Document) (state : FormState) (exportedAt : String) :
    (document.indexedSubmission state exportedAt).field? "formData" =
      some (document.indexedTree state).toJson := by
  simp [indexedSubmission, Json.field?]

theorem at?_indexedSubmission (document : Document) (state : FormState) (exportedAt : String)
    (names : List String) :
    (document.indexedSubmission state exportedAt).at? ("formData" :: names) =
      (document.indexedTree state).toJson.at? names := by
  rw [Json.at?, field?_indexedSubmission, Option.bind_some]

/-- **The submission is an exact image of the visible answers**: reading its paths back as keys
succeeds, gives no key twice and gives exactly the answers that it has to hold, each under the key
that it is stored under. The pages, the sections, the groups and the instances in it, and the
objects that hold them, are not empty. -/
theorem indexedSubmission_exact (document : Document) (state : FormState) (exportedAt : String) :
    ∃ pages posted,
      (document.indexedSubmission state exportedAt).field? "formData" = some (.object pages) ∧
        IndexedTree.readBack (.object pages) = some posted ∧ (posted.map (·.1)).Nodup ∧
        (∀ key value, (key, value) ∈ posted ↔ ∃ field suffix,
          document.Posts state field suffix value ∧ key = field.text ++ suffix) ∧
        ∀ page ∈ pages, page.2.Branching 7 := by
  obtain ⟨pages, hpages, hnames, hbelow⟩ :=
    IndexedTree.branching_of_full (document.full_indexedTree state)
  have hleaves {names : List String} {leaf : Json} :
      (names, leaf) ∈ Json.leaves 8 (.object pages) ↔ ∃ field suffix,
        document.Posts state field suffix leaf ∧ names =
          IndexedTree.path field.groupKey field.instanceIndex (leafName field ++ suffix) := by
    rw [← hpages, IndexedTree.mem_leaves_toJson]
    simp only [leaf?_indexedTree_eq_some_iff]
    constructor
    · rintro ⟨_, _, _, ⟨field, suffix, hposts, rfl, rfl, rfl⟩, rfl⟩
      exact ⟨field, suffix, hposts, rfl⟩
    · rintro ⟨field, suffix, hposts, rfl⟩
      exact ⟨_, _, _, ⟨field, suffix, hposts, rfl, rfl, rfl⟩, rfl⟩
  refine ⟨pages, _, ?_, IndexedTree.mapM_eq_some_filterMap ?_, ?_, ?_, hbelow⟩
  · rw [field?_indexedSubmission, hpages]
  · rintro ⟨names, leaf⟩ hleaf
    obtain ⟨field, suffix, hposts, rfl⟩ := hleaves.1 hleaf
    refine ⟨(field.text ++ suffix, leaf), ?_⟩
    simp only [IndexedTree.keyOf?_eq_some_iff.2 ⟨field, suffix, hposts.isSuffix, rfl, rfl⟩]
    rfl
  · have hpaths := Json.nodup_leaves_object hnames
      fun page hpage => (hbelow page hpage).nodup_leaves
    have hkeys := hpaths.filterMap (f := IndexedTree.keyOf?) fun a b key ha hb =>
      IndexedTree.keyOf?_inj ha hb
    rw [List.filterMap_map] at hkeys
    rw [List.map_filterMap]
    simpa [Function.comp_def] using hkeys
  · intro key value
    simp only [List.mem_filterMap, Prod.exists, hleaves, Option.map_eq_some_iff, Prod.mk.injEq]
    constructor
    · rintro ⟨_, _, ⟨field, suffix, hposts, rfl⟩, _, hkey, rfl, rfl⟩
      rw [IndexedTree.keyOf?_eq_some_iff.2 ⟨field, suffix, hposts.isSuffix, rfl, rfl⟩,
        Option.some.injEq] at hkey
      exact ⟨field, suffix, hposts, hkey.symm⟩
    · rintro ⟨field, suffix, hposts, rfl⟩
      exact ⟨_, value, ⟨field, suffix, hposts, rfl⟩, _,
        IndexedTree.keyOf?_eq_some_iff.2 ⟨field, suffix, hposts.isSuffix, rfl, rfl⟩, rfl, rfl⟩

end Document

end Questionnaire
