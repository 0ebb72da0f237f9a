import Questionnaire.Proofs.Answer.Algebra
import Questionnaire.Proofs.Disclosure
import Questionnaire.Proofs.Session.Counting
import Questionnaire.Proofs.Session.Renaming

/-! # Adding an instance

A new instance of a group changes nothing but what is said of it: no answer, no other count, no
other entry of the visibility map, of the report or of the submission. `Session.Extended` spells
this out for every view, and `Session.addInstance_extended` says it of every addition, and that to
remove the new instance takes everything back. Each view asks for the number of instances anew;
what they have in common is `Document.OneMore`, that one group has one more live instance. -/

namespace Questionnaire

/-! ### Entries of the submission -/

/-- What differs at one place of a list only is changed at that place. -/
theorem map_zipIdx_eq_modify {α β : Type} {entries : List α} {i : Nat} {now former : α × Nat → β}
    {change : β → β} (hhere : ∀ a, entries[i]? = some a → now (a, i) = change (former (a, i)))
    (helse : ∀ a k, k ≠ i → now (a, k) = former (a, k)) :
    entries.zipIdx.map now = (entries.zipIdx.map former).modify i change := by
  refine List.ext_getElem? fun k => ?_
  rw [List.getElem?_modify, List.getElem?_map, List.getElem?_map, List.getElem?_zipIdx,
    Nat.zero_add]
  cases hget : entries[k]? with
  | none => rfl
  | some a =>
      by_cases hk : i = k
      · subst hk
        simp [hhere a hget]
      · simp [helse a k (Ne.symm hk), hk]

/-- The submission with one more entry of an instance of a group. -/
def InteractiveSubmission.appendInstance (submission : InteractiveSubmission) (key : GroupKey)
    (entry : InstanceEntry) : InteractiveSubmission :=
  { submission with
    pages := submission.pages.modify key.pageIndex fun page =>
      { page with
        sections := page.sections.modify key.sectionIndex fun part =>
          { part with
            groups := part.groups.modify key.groupIndex fun group =>
              { group with instances := group.instances ++ [entry] } } } }

/-! ### Documents with one more live instance -/

namespace Document

variable {document : Document} {answers : AnswerStore} {counts former : InstanceTable}
  {group key : GroupKey} {n : Nat}

/-- Without the messages of an instance of a group, a field at this instance has none, and any other
field has all of its own. -/
theorem Fits.filter_entriesFor_instance (hfits : document.Fits) (answers : AnswerStore)
    {coords : QuestionCoords} {question : Question}
    (hquestion : document.question? coords = some question) (group : GroupKey)
    (hn : n < wordLimit) (i : Nat) :
    (entriesFor answers (coords.fieldKey i) question).filter
        (fun entry => ¬ keyInInstance entry.1 group n) =
      if coords.groupKey = group ∧ i = n then []
      else entriesFor answers (coords.fieldKey i) question := by
  have hkeys : ∀ rest : String, EndsCoordinate rest.toList →
      (keyInInstance ((coords.fieldKey i).text ++ rest) group n = true ↔
        coords.groupKey = group ∧ i = n) := by
    intro rest hends
    rw [keyInInstance_append hends]
    constructor
    · exact fun hin => hin.2
    · rintro ⟨hgroup, rfl⟩
      exact ⟨hfits.fieldKey hquestion hn, hgroup, rfl⟩
  exact @filter_entriesFor _ _ _ (fun key => keyInInstance key group n = true) _ _ _ hkeys

/-- Whether a group has one more live instance than before, and every other as many as before. -/
structure OneMore (document : Document) (counts former : InstanceTable) (group : GroupKey)
    (n : Nat) : Prop where
  before : document.liveInstances former group = n
  now : document.liveInstances counts group = n + 1
  others : ∀ key, key ≠ group →
    document.liveInstances counts key = document.liveInstances former key

namespace OneMore

/-- The visibility map has one more entry for each question of the group. -/
theorem get?_visibility (h : document.OneMore counts former group n) (mode : VisibilityMode)
    (field : FieldKey) :
    (document.visibility ⟨answers, counts⟩ mode).get? field =
      if field.groupKey = group ∧ field.instanceIndex = n then
        (document.question? field.coords).map fun question =>
          questionVisible document.index answers mode field.coords question n
      else (document.visibility ⟨answers, former⟩ mode).get? field := by
  rw [Document.get?_visibility, Document.get?_visibility]
  dsimp only
  by_cases hgroup : field.groupKey = group
  · rw [hgroup, h.now, h.before]
    by_cases hn : field.instanceIndex = n
    · rw [if_pos (by omega), if_pos ⟨rfl, hn⟩, hn]
    · have hlt : field.instanceIndex < n + 1 ↔ field.instanceIndex < n := by omega
      simp only [hlt, hn, and_false, if_false]
  · simp only [h.others _ hgroup, hgroup, false_and, if_false]

/-- The former visibility map has no such entries. -/
theorem get?_visibility_former (h : document.OneMore counts former group n) (mode : VisibilityMode)
    {field : FieldKey} (hgroup : field.groupKey = group) (hn : field.instanceIndex = n) :
    (document.visibility ⟨answers, former⟩ mode).get? field = none := by
  rw [Document.get?_visibility]
  dsimp only
  rw [hgroup, h.before, hn, if_neg (Nat.lt_irrefl n)]

/-- The report has the former messages, and beside them only messages of the new instance. -/
theorem filter_validate (h : document.OneMore counts former group n) (hfits : document.Fits)
    (hn : n < wordLimit) :
    (document.validate ⟨answers, counts⟩).filter (fun entry => ¬ keyInInstance entry.1 group n) =
      document.validate ⟨answers, former⟩ := by
  rw [validate, validate, visibleFields_eq_flatMap, visibleFields_eq_flatMap, List.flatMap_assoc,
    List.flatMap_assoc, List.filter_flatMap]
  refine List.flatMap_congr fun entry hentry => ?_
  obtain ⟨coords, question⟩ := entry
  have hquestion := mem_questions_iff.1 hentry
  have hentries := hfits.filter_entriesFor_instance answers hquestion group hn
  simp only [List.flatMap_map, List.filter_flatMap, hentries]
  by_cases hgroup : coords.groupKey = group
  · -- the instances before the new one keep their messages, and it has none
    rw [hgroup, h.now, h.before, List.range_succ, List.filter_append, List.flatMap_append]
    have hnew : ([n].filter
        (questionVisible document.index answers .visible coords question)).flatMap (fun i =>
          if group = group ∧ i = n then [] else entriesFor answers (coords.fieldKey i) question)
            = [] := by
      rw [List.flatMap_eq_nil_iff]
      intro i hi
      exact if_pos ⟨rfl, List.mem_singleton.1 (List.mem_filter.1 hi).1⟩
    rw [hnew, List.append_nil]
    refine List.flatMap_congr fun i hi => if_neg fun hin => ?_
    have hlt : i < n := List.mem_range.1 (List.mem_filter.1 hi).1
    omega
  · simp only [hgroup, false_and, if_false, h.others _ hgroup]

theorem groupEntry_self (h : document.OneMore counts former group n) (index : QuestionIndex)
    (found : Group) :
    document.groupEntry ⟨answers, counts⟩ index group found =
      { document.groupEntry ⟨answers, former⟩ index group found with
        instances := (document.groupEntry ⟨answers, former⟩ index group found).instances ++
          [instanceEntry ⟨answers, counts⟩ index group found n] } := by
  unfold groupEntry
  rw [h.now, h.before, List.range_succ, List.map_append]
  rfl

theorem groupEntry_of_ne (h : document.OneMore counts former group n) (index : QuestionIndex)
    (found : Group) (hne : key ≠ group) :
    document.groupEntry ⟨answers, counts⟩ index key found =
      document.groupEntry ⟨answers, former⟩ index key found := by
  unfold groupEntry
  rw [h.others key hne]
  rfl

/-- The submission has one more entry in the group, the one of the new instance. -/
theorem interactiveSubmission (h : document.OneMore counts former group n) {found : Group}
    (hfound : document.group? group = some found) (exportedAt : String) :
    document.interactiveSubmission ⟨answers, counts⟩ exportedAt =
      (document.interactiveSubmission ⟨answers, former⟩ exportedAt).appendInstance group
        (instanceEntry ⟨answers, counts⟩ document.index group found n) := by
  have hother (p s g : Nat) (other : Group) (hne : (⟨p, s, g⟩ : GroupKey) ≠ group) :
      document.groupEntry ⟨answers, counts⟩ document.index ⟨p, s, g⟩ other =
        document.groupEntry ⟨answers, former⟩ document.index ⟨p, s, g⟩ other :=
    h.groupEntry_of_ne document.index other hne
  refine congrArg (InteractiveSubmission.mk · exportedAt document.pages.length document.sourceName)
    (map_zipIdx_eq_modify (fun page hpage => ?_) fun page p hp => ?_)
  · refine congrArg (PageEntry.mk page.title)
      (map_zipIdx_eq_modify (fun part hpart => ?_) fun part s hs => ?_)
    · refine congrArg (SectionEntry.mk part.title)
        (map_zipIdx_eq_modify (fun other hget => ?_) fun other g hg => ?_)
      · have hthere : document.group? group = some other := by
          simp only [group?, hpage, hpart, hget, Option.bind_eq_bind, Option.bind_some]
        obtain rfl := Option.some.inj (hthere.symm.trans hfound)
        exact h.groupEntry_self document.index other
      · exact hother _ _ g other fun heq => hg (congrArg GroupKey.groupIndex heq)
    · refine congrArg (SectionEntry.mk part.title) (List.map_congr_left fun entry _ => ?_)
      exact hother _ s entry.2 entry.1 fun heq => hs (congrArg GroupKey.sectionIndex heq)
  · refine congrArg (PageEntry.mk page.title) (List.map_congr_left fun entry _ => ?_)
    refine congrArg (SectionEntry.mk entry.1.title) (List.map_congr_left fun inner _ => ?_)
    exact hother p entry.2 inner.2 inner.1 fun heq => hp (congrArg GroupKey.pageIndex heq)

end OneMore

/-- No view tells tables apart that count every group alike. -/
theorem looksAlike_of_count (h : ∀ key, counts.count key = former.count key) :
    document.LooksAlike ⟨answers, counts⟩ ⟨answers, former⟩ := by
  have hlive (key : GroupKey) :
      document.liveInstances counts key = document.liveInstances former key := by
    unfold liveInstances
    simp only [h]
  have hfields : document.liveFields counts = document.liveFields former := by
    unfold liveFields
    simp only [hlive]
  have hvisible :
      document.visibleFields ⟨answers, counts⟩ = document.visibleFields ⟨answers, former⟩ := by
    unfold visibleFields
    rw [hfields]
  constructor
  · constructor
    · unfold validate
      rw [hvisible]
    · refine interactiveSubmission_congr fun key found _ => ?_
      unfold groupEntry
      rw [hlive]
      rfl
    · intro exportedAt
      unfold indexedSubmission indexedTree indexedAnswers
      rw [hvisible]
  · intro mode
    unfold visibility
    rw [hfields]

end Document

/-! ### Sessions -/

namespace Session

/-- The session `after` is `before` with one more instance of a group, and no view shows any other
change. -/
structure Extended (before after : Session) (group : GroupKey) : Prop where
  document : after.document = before.document
  answers : after.state.answers = before.state.answers
  counts : ∀ other, after.count other =
    if other = group then before.count group + 1 else before.count other
  /-- The new instance has an entry for each question of the group. -/
  visibility : ∀ mode field, (after.document.visibility after.state mode).get? field =
    if field.groupKey = group ∧ field.instanceIndex = before.count group then
      (before.document.question? field.coords).map fun question =>
        questionVisible before.document.index before.state.answers mode field.coords question
          (before.count group)
    else (before.document.visibility before.state mode).get? field
  /-- These entries are new. -/
  fresh : ∀ mode field, field.groupKey = group → field.instanceIndex = before.count group →
    (before.document.visibility before.state mode).get? field = none
  report : after.validate.filter
    (fun entry => ¬ keyInInstance entry.1 group (before.count group)) = before.validate
  submission : ∀ exportedAt, ((before.submission exportedAt).group? group).isSome ∧
    ∃ entry, entry.number = before.count group + 1 ∧
      after.submission exportedAt = (before.submission exportedAt).appendInstance group entry

variable {session : Session} {group : GroupKey} {found : Group}

theorem perform_addInstance_of_room (hcheck : session.checkRepeatable group = .ok ())
    (hcount : session.count group + 1 < wordLimit) :
    session.perform (.addInstance group) =
      .ok (.added (session.count group + 1), session.withAdded group) := by
  simp only [perform, addInstance_eq, hcheck, if_pos hcount]

theorem perform_removeInstance_of_canRemove {index : Nat} (h : session.CanRemove group index) :
    session.perform (.removeInstance group index) =
      .ok (.removed true, session.withRemoved group index) := by
  simp only [perform, removeInstance_eq, h.1, if_pos h.2]

theorem oneMore_withAdded (hgroup : session.document.group? group = some found)
    (hrep : found.repeatable = true) :
    session.document.OneMore (session.withAdded group).state.instances session.state.instances group
      (session.count group) where
  before := Document.liveInstances_of_repeatable hgroup hrep
  now := (Document.liveInstances_of_repeatable hgroup hrep).trans
    ((count_withAdded _ group group).trans (if_pos rfl))
  others _ hkey := Document.liveInstances_congr
    ((Table.get?_insert _ _ _ _).trans (if_neg hkey))

theorem extended_withAdded (hfits : session.document.Fits)
    (hgroup : session.document.group? group = some found) (hrep : found.repeatable = true)
    (hcount : session.count group + 1 < wordLimit) :
    session.Extended (session.withAdded group) group := by
  have hmore := oneMore_withAdded hgroup hrep
  constructor
  · rfl
  · rfl
  · exact count_withAdded _ group
  · exact fun mode field => hmore.get?_visibility mode field
  · exact fun mode field hfield hn => hmore.get?_visibility_former mode hfield hn
  · exact hmore.filter_validate hfits (by omega)
  · intro exportedAt
    constructor
    · rw [submission, Document.group?_interactiveSubmission, hgroup]
      rfl
    · exact ⟨_, rfl, hmore.interactiveSubmission hgroup exportedAt⟩

/-- **Adding an instance disturbs nothing, and removing it takes everything back.** While there is
room for another instance of a repeatable group, adding one changes no answer, and every view stays
as it is but for the new instance. If no answer lies there or beyond, the new instance can be
removed under either policy, and then every answer, every count and every view are as before. The
positions in the document are 64-bit numbers. -/
theorem addInstance_extended (hfits : session.document.Fits)
    (hgroup : session.document.group? group = some found) (hrep : found.repeatable = true)
    (hcount : session.count group + 1 < wordLimit) : ∃ after,
      session.perform (.addInstance group) = .ok (.added (session.count group + 1), after) ∧
      session.Extended after group ∧
      (session.state.answers.Within group (session.count group) → ∀ policy, ∃ last,
        perform { after with policy } (.removeInstance group (session.count group)) =
          .ok (.removed true, last) ∧
        last.document = session.document ∧ last.state.answers = session.state.answers ∧
        (∀ other, last.count other = session.count other) ∧
        session.document.LooksAlike last.state session.state) := by
  have hcheck := checkRepeatable_eq_ok_iff.2 ⟨found, hgroup, hrep⟩
  have hextended := extended_withAdded hfits hgroup hrep hcount
  refine ⟨session.withAdded group, perform_addInstance_of_room hcheck hcount, hextended, ?_⟩
  intro hwithin policy
  have hone : 1 ≤ session.count group := InstanceTable.one_le_count _ _
  have hnow : (session.withAdded group).count group = session.count group + 1 := by
    rw [hextended.counts, if_pos rfl]
  have hcan : CanRemove { session.withAdded group with policy } group (session.count group) := by
    refine ⟨hcheck, ?_, ?_⟩
    · show 1 < (session.withAdded group).count group
      omega
    · show session.count group < (session.withAdded group).count group
      omega
  have hanswers : session.state.answers.removeInstance policy group (session.count group) =
      session.state.answers := AnswerStore.removeInstance_eq_self policy hwithin
  have hcounts (other : GroupKey) :
      (withRemoved { session.withAdded group with policy } group (session.count group)).count
        other = session.count other := by
    rw [count_withRemoved hcan]
    show (if other = group then (session.withAdded group).count group - 1
      else (session.withAdded group).count other) = session.count other
    rw [hnow, hextended.counts]
    by_cases hother : other = group
    · simp [hother]
    · simp [hother]
  refine ⟨_, perform_removeInstance_of_canRemove hcan, rfl, hanswers, hcounts, ?_⟩
  simp only [withRemoved, withAdded, hanswers]
  exact Document.looksAlike_of_count hcounts

/-- A fourth sibling comes and goes. -/
theorem addInstance_extended_siblings : ∃ after,
    siblingSession.perform (.addInstance ⟨0, 0, 0⟩) = .ok (.added 4, after) ∧
      siblingSession.Extended after ⟨0, 0, 0⟩ ∧
      ∃ last, perform { after with policy := .preserve } (.removeInstance ⟨0, 0, 0⟩ 3) =
          .ok (.removed true, last) ∧
        last.state.answers = siblingSession.state.answers ∧
        siblingSession.document.LooksAlike last.state siblingSession.state := by
  obtain ⟨after, hadded, hextended, hback⟩ :=
    @addInstance_extended siblingSession ⟨0, 0, 0⟩ _ (by decide) rfl rfl (by decide)
  obtain ⟨last, hremoved, -, hanswers, -, hlooks⟩ := hback (by decide) .preserve
  exact ⟨after, hadded, hextended, last, hremoved, hanswers, hlooks⟩

end Session

end Questionnaire
