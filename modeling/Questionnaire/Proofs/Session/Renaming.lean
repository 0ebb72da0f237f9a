import Questionnaire.Proofs.Mirror
import Questionnaire.Proofs.Session.Run

/-! # Removals as renamings

Under the compact policy the removal of an instance only renames the later instances of its group:
the instance `j` that is left is like the former instance `formerInstance removed j`
(`Document.mirrors_of_removed`), and an instance of another group is like itself, unless its
questions are revealed by an answer of the group's first instance and this is the one removed
(`Document.mirrors_of_other`).

`Session.Renamed` spells out what this means in every view of a session, and
`Session.removeInstance_renamed` says that every removal is such a renaming. -/

namespace Questionnaire

/-- A question is shown alike if its parent is answered alike. -/
theorem questionVisible_congr {index : QuestionIndex} {answers former : AnswerStore}
    {mode : VisibilityMode} {coords : QuestionCoords} {question : Question} {i j : Nat}
    (h : ∀ id parent, question.parent = some id → index.get? id = some parent →
      answers.field? (parent.1.fieldKey (if parent.1.groupKey = coords.groupKey then i else 0)) =
        former.field? (parent.1.fieldKey (if parent.1.groupKey = coords.groupKey then j else 0))) :
    questionVisible index answers mode coords question i =
      questionVisible index former mode coords question j := by
  unfold questionVisible parentFieldKey?
  cases hparent : question.parent with
  | none => rfl
  | some id =>
      cases hfound : index.get? id with
      | none => simp [hfound]
      | some parent => simp [hfound, h id parent hparent hfound]

namespace FormState

/-- The state without an instance of a group, under the compact policy. -/
def without (state : FormState) (group : GroupKey) (index : Nat) : FormState :=
  ⟨state.answers.removeInstance .compact group index,
    state.instances.insert group (state.instances.count group - 1)⟩

variable {state : FormState} {group : GroupKey} {index : Nat}
  {coords : QuestionCoords}

theorem count_without (h : 1 < state.instances.count group) :
    (state.without group index).instances.count group = state.instances.count group - 1 :=
  InstanceTable.count_insert_self group (by omega)

theorem agreeBeside_without_of_group (hgroup : coords.groupKey = group) {i : Nat}
    (hfits : (coords.fieldKey (i + 1)).Fits) :
    (state.without group index).answers.AgreeBeside state.answers (coords.fieldKey i).text
      (coords.fieldKey (formerInstance index i)).text := by
  intro rest hends
  subst hgroup
  have hfield : ((coords.fieldKey i).withInstance ((coords.fieldKey i).instanceIndex + 1)).Fits :=
    hfits
  exact AnswerStore.get?_removeInstance_compact hfield hends

theorem agreeBeside_without_of_other (hgroup : coords.groupKey ≠ group) (i : Nat) :
    (state.without group index).answers.AgreeBeside state.answers (coords.fieldKey i).text
      (coords.fieldKey i).text := by
  intro rest hends
  have hfield : (coords.fieldKey i).groupKey ≠ group := hgroup
  exact AnswerStore.get?_removeInstance_of_not_addresses
    (GroupKey.not_addresses_append hends hfield)

end FormState

/-! ### Which instances look alike after a removal -/

namespace Document

variable {document : Document} {state : FormState} {group : GroupKey} {removed : Nat}

/-- Whether a question outside the group has its parent in the group. -/
def RevealsOutside (document : Document) (group : GroupKey) : Prop :=
  ∃ coords question id parent, document.question? coords = some question ∧
    coords.groupKey ≠ group ∧ question.parent = some id ∧ document.index.get? id = some parent ∧
      parent.1.groupKey = group

/-- An instance that is left is like the one that has moved there. -/
theorem mirrors_of_removed (hfits : document.Fits) {found : Group}
    (hgroup : document.group? group = some found) (hrep : found.repeatable = true)
    (hcount : state.instances.count group < wordLimit)
    (hremoved : removed < state.instances.count group) {j : Nat}
    (hj : j < state.instances.count group - 1) :
    document.Mirrors (state.without group removed) state group j (formerInstance removed j) := by
  have hown (coords : QuestionCoords) (question : Question)
      (hquestion : document.question? coords = some question) (hcoords : coords.groupKey = group) :
      (state.without group removed).answers.AgreeBeside state.answers (coords.fieldKey j).text
        (coords.fieldKey (formerInstance removed j)).text :=
    FormState.agreeBeside_without_of_group hcoords (hfits.fieldKey hquestion (by omega))
  refine ⟨?_, hown, fun mode coords question hquestion hcoords => ?_⟩
  · rw [liveInstances_of_repeatable hgroup hrep, liveInstances_of_repeatable hgroup hrep,
      FormState.count_without (by omega)]
    unfold formerInstance
    split <;> omega
  · refine questionVisible_congr fun id parent _ hfound => ?_
    have hparent := question?_of_get?_index hfound
    by_cases hsame : parent.1.groupKey = coords.groupKey
    · rw [if_pos hsame, if_pos hsame]
      exact (hown parent.1 parent.2 hparent (hsame.trans hcoords)).get?
    · rw [if_neg hsame, if_neg hsame]
      have hother : parent.1.groupKey ≠ group := fun h => hsame (h.trans hcoords.symm)
      exact (FormState.agreeBeside_without_of_other hother 0).get?

/-- An instance of another group is like itself, if the first instance of the group stays or reveals
nothing outside the group. -/
theorem mirrors_of_other (hfits : document.Fits)
    (hfirst : 0 < removed ∨ ¬ document.RevealsOutside group) {key : GroupKey} (hkey : key ≠ group)
    (i : Nat) :
    document.Mirrors (state.without group removed) state key i i := by
  refine ⟨?_, fun coords question hquestion hcoords => ?_,
    fun mode coords question hquestion hcoords => ?_⟩
  · rw [liveInstances_congr]
    exact (Table.get?_insert _ _ _ _).trans (if_neg hkey)
  · exact FormState.agreeBeside_without_of_other (fun h => hkey (hcoords.symm.trans h)) i
  · refine questionVisible_congr fun id parent hid hfound => ?_
    have hparent := question?_of_get?_index hfound
    by_cases hgroup : parent.1.groupKey = group
    · -- the parent is read at the first instance, which has not moved
      have hreveals : document.RevealsOutside group :=
        ⟨coords, question, id, parent, hquestion, fun h => hkey (hcoords.symm.trans h), hid, hfound,
          hgroup⟩
      have hpos : 0 < removed := hfirst.resolve_right (not_not_intro hreveals)
      have hother : parent.1.groupKey ≠ coords.groupKey := fun h =>
        hkey (hcoords.symm.trans (h.symm.trans hgroup))
      rw [if_neg hother]
      have hstays : formerInstance removed 0 = 0 := if_pos hpos
      have hone : 0 + 1 < wordLimit := by decide
      have hagree := @FormState.agreeBeside_without_of_group state group removed parent.1 hgroup 0
        (hfits.fieldKey hparent hone)
      rw [hstays] at hagree
      exact hagree.get?
    · exact (FormState.agreeBeside_without_of_other hgroup _).get?

end Document

/-! ### The views of a session -/

/-- The entries with the numbers from one on. -/
def renumbered (entries : List InstanceEntry) : List InstanceEntry :=
  entries.zipIdx.map fun (entry, i) => { entry with number := i + 1 }

theorem map_range_eq_renumbered {n removed : Nat} (hremoved : removed < n)
    {now former : Nat → InstanceEntry}
    (h : ∀ j, j < n - 1 → now j = { former (formerInstance removed j) with number := j + 1 }) :
    (List.range (n - 1)).map now = renumbered (((List.range n).map former).eraseIdx removed) := by
  refine List.ext_getElem? fun j => ?_
  have hformer : (((List.range n).map former).eraseIdx removed)[j]? =
      ((List.range n).map former)[formerInstance removed j]? := by
    rw [List.getElem?_eraseIdx, formerInstance]
    split <;> rfl
  rw [renumbered, List.getElem?_map, List.getElem?_map, List.getElem?_zipIdx, hformer,
    List.getElem?_map, Option.map_map, Option.map_map]
  by_cases hj : j < n - 1
  · have hlt : formerInstance removed j < n := by
      unfold formerInstance
      split <;> omega
    rw [List.getElem?_range hj, List.getElem?_range hlt, Option.map_some, Option.map_some, h j hj]
    simp
  · have hge : n ≤ formerInstance removed j := by
      unfold formerInstance
      split <;> omega
    rw [List.getElem?_eq_none (by rwa [List.length_range, ← Nat.not_lt]),
      List.getElem?_eq_none (by rwa [List.length_range])]
    rfl

namespace Session

/-- The object of a group in the submission by position. -/
def groupObject? (session : Session) (exportedAt : String) (group : GroupKey) : Option Json :=
  (session.document.indexedSubmission session.state exportedAt).at?
    ("formData" :: IndexedTree.groupPath group)

/-- The object of an instance in the submission by position. -/
def instanceObject? (session : Session) (exportedAt : String) (group : GroupKey) (i : Nat) :
    Option Json :=
  (session.document.indexedSubmission session.state exportedAt).at?
    ("formData" :: IndexedTree.instancePath group i)

theorem groupObject?_eq (session : Session) (exportedAt : String) (group : GroupKey) :
    session.groupObject? exportedAt group =
      ((session.document.indexedTree session.state).group? group).map IndexedTree.groupJson := by
  rw [groupObject?, Document.at?_indexedSubmission, IndexedTree.at?_groupPath]

theorem instanceObject?_eq (session : Session) (exportedAt : String) (group : GroupKey) (i : Nat) :
    session.instanceObject? exportedAt group i =
      ((session.document.indexedTree session.state).slot? group i).map fun slot =>
        .object slot.toList := by
  rw [instanceObject?, Document.at?_indexedSubmission, IndexedTree.at?_instancePath]

/-- Two sessions show the same of every group but one. -/
structure AlikeOutside (before after : Session) (group : GroupKey) : Prop where
  visibility : ∀ mode field, field.groupKey ≠ group →
    (after.document.visibility after.state mode).get? field =
      (before.document.visibility before.state mode).get? field
  report : after.validate.filter (fun entry => ¬ group.Addresses entry.1) =
    before.validate.filter fun entry => ¬ group.Addresses entry.1
  entries : ∀ exportedAt key, key ≠ group →
    (after.submission exportedAt).group? key = (before.submission exportedAt).group? key
  objects : ∀ exportedAt key, key ≠ group →
    after.groupObject? exportedAt key = before.groupObject? exportedAt key

/-- The session `after` is `before` with an instance of a group removed and the later ones renamed:
in every view the instance `j` that is left shows what instance `formerInstance removed j` showed.
The other groups are shown as before if the first instance has stayed or reveals nothing outside
the group. -/
structure Renamed (before after : Session) (group : GroupKey) (removed : Nat) : Prop where
  visibility : ∀ (mode : VisibilityMode) (field : FieldKey), field.groupKey = group →
    field.instanceIndex < before.state.instances.count group - 1 →
      (after.document.visibility after.state mode).get? field =
        (before.document.visibility before.state mode).get?
          (field.withInstance (formerInstance removed field.instanceIndex))
  messages : ∀ (field : FieldKey) (rest message : String), field.groupKey = group →
    field.instanceIndex < before.state.instances.count group - 1 → EndsCoordinate rest.toList →
      ((field.text ++ rest, message) ∈ after.validate ↔
        ((field.withInstance (formerInstance removed field.instanceIndex)).text ++ rest, message) ∈
          before.validate)
  /-- There are no other messages in the group. -/
  noOthers : ∀ text message, (text, message) ∈ after.validate → group.Addresses text →
    ∃ (field : FieldKey) (suffix : String), text = field.text ++ suffix ∧ field.groupKey = group ∧
      field.instanceIndex < before.state.instances.count group - 1 ∧
        (suffix = "" ∨ ∃ n, suffix = subKey "" n)
  entries : ∀ exportedAt, ∃ entry, (before.submission exportedAt).group? group = some entry ∧
    (after.submission exportedAt).group? group =
      some { entry with instances := renumbered (entry.instances.eraseIdx removed) }
  objects : ∀ exportedAt j, j < before.state.instances.count group - 1 →
    after.instanceObject? exportedAt group j =
      before.instanceObject? exportedAt group (formerInstance removed j)
  others : 0 < removed ∨ ¬ before.document.RevealsOutside group → before.AlikeOutside after group

section Removal

variable {session : Session} {group : GroupKey} {found : Group} {removed : Nat}

theorem removeInstance_eq_without (hpolicy : session.policy = .compact)
    (hgroup : session.document.group? group = some found) (hrep : found.repeatable = true)
    (hseveral : 1 < session.state.instances.count group)
    (hremoved : removed < session.state.instances.count group) :
    session.removeInstance group removed =
      .ok (some { session with state := session.state.without group removed }) := by
  have hcheck := checkRepeatable_eq_ok_iff.2 ⟨found, hgroup, hrep⟩
  have hstate : session.state.removeInstance? .compact group removed =
      some (session.state.without group removed) :=
    FormState.removeInstance?_eq_some_iff.2 ⟨hseveral, hremoved, rfl⟩
  rw [removeInstance, hcheck, hpolicy, hstate]
  rfl

theorem alikeOutside_of_mirrors {state : FormState}
    (hstate : ∀ field question, (field, question) ∈ session.document.visibleFields state →
      field.groupKey = group → field.Fits)
    (hformer : ∀ field question, (field, question) ∈ session.document.visibleFields session.state →
      field.groupKey = group → field.Fits)
    (h : ∀ key, key ≠ group → ∀ i, session.document.Mirrors state session.state key i i) :
    session.AlikeOutside { session with state } group where
  visibility mode field hfield := by
    have hcoords : field.coords.groupKey = field.groupKey := rfl
    exact (h field.groupKey hfield field.instanceIndex).get?_visibility hcoords mode
  report := Document.filter_validate_eq hstate hformer h
  entries exportedAt key hkey := by
    simp only [submission, Document.group?_interactiveSubmission]
    cases hgroup : session.document.group? key with
    | none => rfl
    | some found =>
        have hinstance (i : Nat) : Document.instanceEntry state session.document.index key found i =
            Document.instanceEntry session.state session.document.index key found i :=
          congrArg (InstanceEntry.mk (i + 1)) ((h key hkey i).questions_instanceEntry hgroup)
        simp only [Option.map_some, Document.groupEntry,
          Document.Mirrors.liveInstances_eq (h key hkey), funext hinstance]
  objects exportedAt key hkey := by
    rw [groupObject?_eq, groupObject?_eq]
    refine congrArg _ (IndexedTree.group?_eq_of_slot?_eq (session.document.full_indexedTree _)
      (session.document.full_indexedTree _) fun i => (h key hkey i).slot?_indexedTree)

/-- **A removal is a renaming in every view**: under the compact policy every instance of a
repeatable group that is not its only one can be removed, and what is left is the former session
with the later instances renamed. The positions in the document and the count are 64-bit numbers. -/
theorem removeInstance_renamed (hpolicy : session.policy = .compact)
    (hfits : session.document.Fits) (hgroup : session.document.group? group = some found)
    (hrep : found.repeatable = true) (hcount : session.state.instances.count group < wordLimit)
    (hseveral : 1 < session.state.instances.count group)
    (hremoved : removed < session.state.instances.count group) :
    ∃ after, session.removeInstance group removed = .ok (some after) ∧
      session.Renamed after group removed := by
  refine ⟨_, removeInstance_eq_without hpolicy hgroup hrep hseveral hremoved, ?_⟩
  have hmirrors {j : Nat} (hj : j < session.state.instances.count group - 1) :=
    Document.mirrors_of_removed hfits hgroup hrep hcount hremoved hj
  have hlive : session.document.liveInstances session.state.instances group =
      session.state.instances.count group :=
    Document.liveInstances_of_repeatable hgroup hrep
  have hliveAfter : session.document.liveInstances
      (session.state.without group removed).instances group =
        session.state.instances.count group - 1 := by
    rw [Document.liveInstances_of_repeatable hgroup hrep, FormState.count_without hseveral]
  constructor
  · intro mode field hfield hlt
    have hcoords : field.coords.groupKey = group := hfield
    exact (hmirrors hlt).get?_visibility hcoords mode
  · intro field rest message hfield hlt hends
    have hcoords : field.coords.groupKey = group := hfield
    exact (hmirrors hlt).mem_validate_iff hcoords hends
  · intro text message hmem haddresses
    have hfield := Document.exists_field_of_mem_validate hmem haddresses
    rwa [hliveAfter] at hfield
  · intro exportedAt
    refine ⟨session.document.groupEntry session.state session.document.index group found, ?_, ?_⟩
    · rw [submission, Document.group?_interactiveSubmission, hgroup, Option.map_some]
    · rw [submission, Document.group?_interactiveSubmission, hgroup, Option.map_some]
      simp only [Document.groupEntry, hlive, hliveAfter]
      rw [map_range_eq_renumbered hremoved]
      intro j hj
      exact congrArg (InstanceEntry.mk (j + 1)) ((hmirrors hj).questions_instanceEntry hgroup)
  · intro exportedAt j hj
    rw [instanceObject?_eq, instanceObject?_eq, (hmirrors hj).slot?_indexedTree]
  · intro hfirst
    exact alikeOutside_of_mirrors (hfits.visibleFields (by omega)) (hfits.visibleFields (by omega))
      fun key hkey i => Document.mirrors_of_other hfits hfirst hkey i

end Removal

/-- The session of a person with three siblings. -/
def siblingSession : Session where
  document := siblingForm true
  state := ⟨.ofList [("p0_s0_g0_q0_i0", .text "Ada"), ("p0_s0_g0_q0_i1", .text "Ben"),
    ("p0_s0_g0_q0_i2", .text "Cleo")], .ofList [(⟨0, 0, 0⟩, 3)]⟩
  policy := .compact

theorem removeInstance_renamed_siblings : ∃ after,
    siblingSession.removeInstance ⟨0, 0, 0⟩ 1 = .ok (some after) ∧
      siblingSession.Renamed after ⟨0, 0, 0⟩ 1 :=
  removeInstance_renamed rfl (by decide) rfl rfl (by decide) (by decide) (by decide)

end Session

end Questionnaire
