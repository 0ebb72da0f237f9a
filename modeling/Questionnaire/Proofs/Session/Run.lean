import Questionnaire.Proofs.Answer.Instances
import Questionnaire.Session

/-! # Runs of a session

A session is changed by `Session.Operation`s, one after another; `Session.perform` makes one step
and says what it replies, unless the step stops the program. `Session.Step` lists once what a step
can come to, and whatever a step keeps is shown case by case. `Session.History` tells how a session
has come about, by steps in which only live instances are answered.

Every step keeps a session `Session.Consistent`: a group has several instances only if the document
lets it, and no answer lies at an instance beyond the count of its group. So this holds of every
session that starts with no answers, under the compact policy (`Session.reached_consistent`). -/

namespace Questionnaire.Session

/-- What may be done with a session to change it. -/
inductive Operation where
  | setAnswer (key : String) (value : AnswerValue)
  | clearAnswer (key : String)
  | addInstance (group : GroupKey)
  | removeInstance (group : GroupKey) (index : Nat)
  | reset
  | replaceDocument (document : Document)

/-- What a session replies to an operation. -/
inductive Reply where
  | done
  /-- The answer that was dropped, if there was one. -/
  | cleared (former : Option AnswerValue)
  /-- The count of the group with its new instance. -/
  | added (count : Nat)
  /-- Whether an instance was removed. -/
  | removed (gone : Bool)
  | refused (error : SessionError)

/-- Whether nothing came of an operation. -/
def Reply.failed : Reply → Bool
  | .refused _ => true
  | .removed gone => !gone
  | .cleared former => former.isNone
  | _ => false

/-- One step of a session: its reply and the session after it. -/
def perform (session : Session) : Operation → Except Overflow (Reply × Session)
  | .setAnswer key value => .ok (.done, session.setAnswer key value)
  | .clearAnswer key => .ok (.cleared (session.answer? key), session.clearAnswer key)
  | .addInstance group =>
      match session.addInstance group with
      | .ok (count, next) => .ok (.added count, next)
      | .error (.refused error) => .ok (.refused error, session)
      | .error (.stopped overflow) => .error overflow
  | .removeInstance group index =>
      match session.removeInstance group index with
      | .ok (some next) => .ok (.removed true, next)
      | .ok none => .ok (.removed false, session)
      | .error error => .ok (.refused error, session)
  | .reset => .ok (.done, session.reset)
  | .replaceDocument document =>
      match session.replaceDocument document with
      | .ok next => .ok (.done, next)
      | .error error => .ok (.refused error, session)

/-- What the caller of an operation sees to: a field is answered only at a live instance of its
group. -/
def Operation.Allowed (session : Session) : Operation → Prop
  | .setAnswer key _ => ∀ field rest, FieldKey.split? key = some (field, rest) →
      field.instanceIndex < session.state.instances.count field.groupKey
  | _ => True

/-- A step that has been made. -/
structure Event where
  /-- The session before the step. -/
  before : Session
  operation : Operation
  reply : Reply

/-- The session has come about from the first one by these steps, of which the latest stands in
front. -/
inductive History (first : Session) : List Event → Session → Prop
  | nil : History first [] first
  | cons {events : List Event} {session next : Session} {reply : Reply} (operation : Operation) :
      History first events session → operation.Allowed session →
        session.perform operation = .ok (reply, next) →
          History first (⟨session, operation, reply⟩ :: events) next

/-- The two tables of a session fit each other and the document. -/
structure Consistent (session : Session) : Prop where
  /-- A group has several instances only if it is in the document and repeatable. -/
  repeatable : ∀ group, 1 < session.state.instances.count group →
    ∃ found, session.document.group? group = some found ∧ found.repeatable = true
  /-- No answer of a field lies beyond the count of its group. -/
  reachable : ∀ key value field rest, session.state.answers.get? key = some value →
    FieldKey.split? key = some (field, rest) →
      field.instanceIndex < session.state.instances.count field.groupKey

/-! ### What each operation does -/

variable {session next : Session}

/-- How often a group is filled in. -/
def count (session : Session) (group : GroupKey) : Nat := session.state.instances.count group

/-- The session with one more instance of a group. -/
def withAdded (session : Session) (group : GroupKey) : Session :=
  { session with
    state := { session.state with
      instances := session.state.instances.insert group (session.count group + 1) } }

/-- The session without an instance of a group. -/
def withRemoved (session : Session) (group : GroupKey) (index : Nat) : Session :=
  { session with
    state := ⟨session.state.answers.removeInstance session.policy group index,
      session.state.instances.insert group (session.count group - 1)⟩ }

/-- Whether an instance can be taken away from a group: the group is repeatable, and the instance is
there and not the only one. -/
def CanRemove (session : Session) (group : GroupKey) (index : Nat) : Prop :=
  session.checkRepeatable group = .ok () ∧ 1 < session.count group ∧ index < session.count group

theorem checkRepeatable_eq_ok_iff {group : GroupKey} :
    session.checkRepeatable group = .ok () ↔
      ∃ found, session.document.group? group = some found ∧ found.repeatable = true := by
  unfold checkRepeatable
  cases session.document.group? group with
  | none => simp
  | some found => cases hrep : found.repeatable <;> simp [hrep]

theorem addInstance_eq (session : Session) (group : GroupKey) :
    session.addInstance group =
      match session.checkRepeatable group with
      | .error error => .error (.refused error)
      | .ok () =>
        if session.count group + 1 < wordLimit then
          .ok (session.count group + 1, session.withAdded group)
        else .error (.stopped .addition) := by
  rw [addInstance, InstanceTable.add_eq, count]
  cases session.checkRepeatable group with
  | error error => rfl
  | ok _ => split <;> rfl

theorem removeInstance_eq (session : Session) (group : GroupKey) (index : Nat) :
    session.removeInstance group index =
      match session.checkRepeatable group with
      | .error error => .error error
      | .ok () =>
        if 1 < session.count group ∧ index < session.count group then
          .ok (some (session.withRemoved group index))
        else .ok none := by
  rw [removeInstance]
  cases session.checkRepeatable group with
  | error error => rfl
  | ok _ =>
      by_cases hthere : 1 < session.count group ∧ index < session.count group
      · have hstate : session.state.removeInstance? session.policy group index =
            some (session.withRemoved group index).state :=
          FormState.removeInstance?_eq_some_iff.2 ⟨hthere.1, hthere.2, rfl⟩
        simp only [if_pos hthere]
        rw [hstate]
        rfl
      · have hnone : session.state.removeInstance? session.policy group index = none := by
          rw [Option.eq_none_iff_forall_ne_some]
          intro state hstate
          obtain ⟨hseveral, hindex, -⟩ := FormState.removeInstance?_eq_some_iff.1 hstate
          exact hthere ⟨hseveral, hindex⟩
        simp only [if_neg hthere]
        rw [hnone]
        rfl

theorem replaceDocument_eq_ok {document : Document}
    (h : session.replaceDocument document = .ok next) :
    next = { session with
      document
      state := (overfilledGroups document session.state.instances).foldl FormState.collapse
        session.state } := by
  unfold replaceDocument at h
  split at h
  · exact (Except.ok.inj h).symm
  · cases h

theorem count_withAdded (session : Session) (group other : GroupKey) :
    (session.withAdded group).count other =
      if other = group then session.count group + 1 else session.count other := by
  by_cases hother : other = group
  · rw [if_pos hother, hother]
    exact InstanceTable.count_insert_self group (Nat.le_add_left 1 _)
  · rw [if_neg hother]
    exact InstanceTable.count_insert_of_ne _ hother

theorem count_withRemoved {group : GroupKey} {index : Nat} (hcan : session.CanRemove group index)
    (other : GroupKey) : (session.withRemoved group index).count other =
      if other = group then session.count group - 1 else session.count other := by
  by_cases hother : other = group
  · rw [if_pos hother, hother]
    exact InstanceTable.count_insert_self group (Nat.le_sub_one_of_lt hcan.2.1)
  · rw [if_neg hother]
    exact InstanceTable.count_insert_of_ne _ hother

/-- The groups with several instances that the new document does not allow are left with one. -/
theorem count_replaceDocument {document : Document}
    (h : session.replaceDocument document = .ok next) (group : GroupKey) :
    next.state.instances.count group =
      if group ∈ overfilledGroups document session.state.instances then 1
      else session.state.instances.count group := by
  obtain rfl := replaceDocument_eq_ok h
  have hget := FormState.get?_foldl_collapse_instances
    (overfilledGroups document session.state.instances) session.state group
  split at hget
  · rename_i hmem
    rw [if_pos hmem, InstanceTable.count_of_get?_eq_none hget]
  · rename_i hmem
    rw [if_neg hmem, InstanceTable.count_congr hget]

theorem clearAnswer_eq_self {key : String} (h : session.answer? key = none) :
    session.clearAnswer key = session := by
  rw [clearAnswer, Table.erase_eq_self h]

theorem mem_overfilledGroups_iff {document : Document} {instances : InstanceTable}
    {group : GroupKey} :
    group ∈ overfilledGroups document instances ↔
      1 < instances.count group ∧ allowsInstances document group = false := by
  simp only [overfilledGroups, List.mem_map, List.mem_filter, Prod.exists, exists_and_right,
    exists_eq_right, Bool.and_eq_true, decide_eq_true_eq, Bool.not_eq_true', Table.mem_toList_iff,
    InstanceTable.count]
  constructor
  · rintro ⟨n, hget, hn, hallows⟩
    rw [hget]
    exact ⟨Nat.lt_of_lt_of_le hn (Nat.le_max_right _ _), hallows⟩
  · rintro ⟨hcount, hallows⟩
    cases hget : instances.get? group with
    | none => simp [hget] at hcount
    | some n =>
        rw [hget, Option.getD_some] at hcount
        exact ⟨n, rfl, by omega, hallows⟩

theorem allowsInstances_iff {document : Document} {group : GroupKey} :
    allowsInstances document group = true ↔
      ∃ found, document.group? group = some found ∧ found.repeatable = true := by
  simp [allowsInstances, Option.any_eq_true]

/-! ### What a step can come to -/

/-- Refuses an operation on a group that is not there or not repeatable, and a document without
pages. -/
def Operation.check (session : Session) : Operation → Except SessionError Unit
  | .addInstance group => session.checkRepeatable group
  | .removeInstance group _ => session.checkRepeatable group
  | .replaceDocument document => (session.replaceDocument document).map fun _ => ()
  | _ => .ok ()

/-- What an operation makes of a session, and what is replied. -/
inductive Step (session : Session) : Operation → Reply → Session → Prop
  | setAnswer (key : String) (value : AnswerValue) :
      Step session (.setAnswer key value) .done (session.setAnswer key value)
  | clearAnswer (key : String) :
      Step session (.clearAnswer key) (.cleared (session.answer? key)) (session.clearAnswer key)
  /-- The group is repeatable, and there is a word for its new count. -/
  | added {group : GroupKey} :
      session.checkRepeatable group = .ok () → session.count group + 1 < wordLimit →
        Step session (.addInstance group) (.added (session.count group + 1))
          (session.withAdded group)
  | removed {group : GroupKey} {index : Nat} :
      session.CanRemove group index →
        Step session (.removeInstance group index) (.removed true)
          (session.withRemoved group index)
  /-- The group is repeatable, but there is no such instance or it is the only one. -/
  | kept {group : GroupKey} {index : Nat} :
      session.checkRepeatable group = .ok () → ¬ session.CanRemove group index →
        Step session (.removeInstance group index) (.removed false) session
  | reset : Step session .reset .done session.reset
  | replaced {document : Document} {next : Session} :
      session.replaceDocument document = .ok next →
        Step session (.replaceDocument document) .done next
  | refused {operation : Operation} {error : SessionError} :
      operation.check session = .error error → Step session operation (.refused error) session

variable {operation : Operation} {reply : Reply}

/-- A step that does not stop the program is one of those listed. -/
theorem step_of_perform (h : session.perform operation = .ok (reply, next)) :
    session.Step operation reply next := by
  cases operation with
  | setAnswer key value =>
      obtain ⟨rfl, rfl⟩ := Prod.mk.inj (Except.ok.inj h)
      exact .setAnswer key value
  | clearAnswer key =>
      obtain ⟨rfl, rfl⟩ := Prod.mk.inj (Except.ok.inj h)
      exact .clearAnswer key
  | addInstance group =>
      rw [perform, addInstance_eq] at h
      cases hcheck : session.checkRepeatable group with
      | error error =>
          rw [hcheck] at h
          obtain ⟨rfl, rfl⟩ := Prod.mk.inj (Except.ok.inj h)
          exact .refused hcheck
      | ok _ =>
          rw [hcheck] at h
          by_cases hroom : session.count group + 1 < wordLimit
          · simp only [if_pos hroom] at h
            obtain ⟨rfl, rfl⟩ := Prod.mk.inj (Except.ok.inj h)
            exact .added hcheck hroom
          · simp only [if_neg hroom] at h
            cases h
  | removeInstance group index =>
      rw [perform, removeInstance_eq] at h
      cases hcheck : session.checkRepeatable group with
      | error error =>
          rw [hcheck] at h
          obtain ⟨rfl, rfl⟩ := Prod.mk.inj (Except.ok.inj h)
          exact .refused hcheck
      | ok _ =>
          rw [hcheck] at h
          by_cases hthere : 1 < session.count group ∧ index < session.count group
          · simp only [if_pos hthere] at h
            obtain ⟨rfl, rfl⟩ := Prod.mk.inj (Except.ok.inj h)
            exact .removed ⟨hcheck, hthere⟩
          · simp only [if_neg hthere] at h
            obtain ⟨rfl, rfl⟩ := Prod.mk.inj (Except.ok.inj h)
            exact .kept hcheck fun hcan => hthere hcan.2
  | reset =>
      obtain ⟨rfl, rfl⟩ := Prod.mk.inj (Except.ok.inj h)
      exact .reset
  | replaceDocument document =>
      rw [perform] at h
      cases hreplace : session.replaceDocument document with
      | error error =>
          rw [hreplace] at h
          obtain ⟨rfl, rfl⟩ := Prod.mk.inj (Except.ok.inj h)
          exact .refused (congrArg (Except.map fun _ => ()) hreplace)
      | ok replaced =>
          rw [hreplace] at h
          obtain ⟨rfl, rfl⟩ := Prod.mk.inj (Except.ok.inj h)
          exact .replaced hreplace

/-- The one step that stops the program is an addition to a group of which a word can count no more
instances. -/
theorem perform_eq_error_iff {overflow : Overflow} :
    session.perform operation = .error overflow ↔ ∃ group, operation = .addInstance group ∧
      session.checkRepeatable group = .ok () ∧ wordLimit ≤ session.count group + 1 := by
  cases operation with
  | addInstance group =>
      simp only [perform, addInstance_eq, Operation.addInstance.injEq, exists_eq_left']
      cases hcheck : session.checkRepeatable group with
      | error error => simp
      | ok _ =>
          by_cases hroom : session.count group + 1 < wordLimit
          · simp [hroom]
          · cases overflow
            simp [hroom, Nat.le_of_not_lt hroom]
  | removeInstance group index =>
      simp only [perform, reduceCtorEq, false_and, exists_false, iff_false]
      split <;> simp
  | replaceDocument document =>
      simp only [perform, reduceCtorEq, false_and, exists_false, iff_false]
      split <;> simp
  | setAnswer | clearAnswer | reset => simp [perform]

/-- A step from which nothing came has changed nothing. -/
theorem Step.eq_of_failed (h : session.Step operation reply next) (hfailed : reply.failed = true) :
    next = session := by
  cases h with
  | clearAnswer key => exact clearAnswer_eq_self (Option.isNone_iff_eq_none.1 hfailed)
  | kept => rfl
  | refused => rfl
  | setAnswer | added | removed | reset | replaced => cases hfailed

/-! ### What every step keeps -/

theorem Step.policy_eq (h : session.Step operation reply next) : next.policy = session.policy := by
  cases h with
  | replaced hreplace => rw [replaceDocument_eq_ok hreplace]
  | _ => rfl

theorem consistent_of_empty {document : Document} {policy : RemovalPolicy} :
    Consistent ⟨document, .empty, policy⟩ := by
  constructor
  · intro group hseveral
    have hcount : InstanceTable.count .empty group = 1 :=
      InstanceTable.count_of_get?_eq_none (Table.get?_empty group)
    rw [FormState.empty, hcount] at hseveral
    omega
  · intro key value field rest hget
    simp [FormState.empty] at hget

theorem Consistent.setAnswer (h : session.Consistent) {key : String} {value : AnswerValue}
    (hallowed : (Operation.setAnswer key value).Allowed session) :
    (session.setAnswer key value).Consistent := by
  refine ⟨h.repeatable, fun other answer field rest hget hsplit => ?_⟩
  simp only [Session.setAnswer, Table.get?_insert] at hget ⊢
  by_cases hother : other = key
  · subst hother
    exact hallowed field rest hsplit
  · rw [if_neg hother] at hget
    exact h.reachable other answer field rest hget hsplit

theorem Consistent.clearAnswer (h : session.Consistent) (key : String) :
    (session.clearAnswer key).Consistent := by
  refine ⟨h.repeatable, fun other answer field rest hget hsplit => ?_⟩
  simp only [Session.clearAnswer, Table.get?_erase] at hget ⊢
  by_cases hother : other = key
  · rw [if_pos hother] at hget
    cases hget
  · rw [if_neg hother] at hget
    exact h.reachable other answer field rest hget hsplit

theorem Consistent.withAdded (h : session.Consistent) {group : GroupKey}
    (hcheck : session.checkRepeatable group = .ok ()) :
    (session.withAdded group).Consistent := by
  constructor
  · intro other hseveral
    by_cases hother : other = group
    · rw [hother]
      exact checkRepeatable_eq_ok_iff.1 hcheck
    · have hcount := count_withAdded session group other
      rw [if_neg hother] at hcount
      exact h.repeatable other (Nat.lt_of_lt_of_eq hseveral hcount)
  · intro key value field rest hget hsplit
    have hlt : field.instanceIndex < session.count field.groupKey :=
      h.reachable key value field rest hget hsplit
    show field.instanceIndex < (session.withAdded group).count field.groupKey
    rw [count_withAdded]
    split
    · rename_i hgroup
      rw [hgroup] at hlt
      omega
    · exact hlt

/-- A removal takes the answers of the instance away and moves those of every later one to the
instance before it, which is below the new count. -/
theorem Consistent.withRemoved (h : session.Consistent) (hpolicy : session.policy = .compact)
    {group : GroupKey} {index : Nat} (hcan : session.CanRemove group index) :
    (session.withRemoved group index).Consistent := by
  obtain ⟨hcheck, hseveral, hindex⟩ := id hcan
  constructor
  · intro other hother
    by_cases heq : other = group
    · rw [heq]
      exact checkRepeatable_eq_ok_iff.1 hcheck
    · have hcount := count_withRemoved hcan other
      rw [if_neg heq] at hcount
      exact h.repeatable other (Nat.lt_of_lt_of_eq hother hcount)
  · intro key value field rest hget hsplit
    obtain ⟨rfl, hfits, hends⟩ := FieldKey.split?_eq_some_iff.1 hsplit
    show field.instanceIndex < (session.withRemoved group index).count field.groupKey
    rw [count_withRemoved hcan]
    simp only [Session.withRemoved, hpolicy] at hget
    by_cases hfield : field.groupKey = group
    · subst hfield
      rw [AnswerStore.get?_removeInstance_of_group hfits hends] at hget
      obtain ⟨j, hj, hmoves, hget⟩ := hget
      have hsplit' := FieldKey.split?_eq_some_iff.2
        ⟨rfl, FieldKey.fits_withInstance hfits hj, hends⟩
      have hlt : j < session.count field.groupKey := h.reachable _ _ _ _ hget hsplit'
      have hj' := instanceAfter?_compact.1 hmoves
      rw [if_pos rfl]
      unfold formerInstance at hj'
      split at hj' <;> omega
    · rw [AnswerStore.get?_removeInstance_of_not_addresses
        (GroupKey.not_addresses_append hends hfield)] at hget
      rw [if_neg hfield]
      exact h.reachable _ _ _ _ hget hsplit

/-- The groups that the new document does not let be filled in several times are collapsed, so
that no other group has several instances and no answer of theirs is left beyond the first. -/
theorem Consistent.replaceDocument (h : session.Consistent) {document : Document}
    (hreplace : session.replaceDocument document = .ok next) : next.Consistent := by
  have hcount := count_replaceDocument hreplace
  obtain rfl := replaceDocument_eq_ok hreplace
  constructor
  · intro group hseveral
    simp only [hcount] at hseveral
    split at hseveral
    · omega
    · rename_i hmem
      rw [← allowsInstances_iff, ← Bool.not_eq_false]
      exact fun hforbids => hmem (mem_overfilledGroups_iff.2 ⟨hseveral, hforbids⟩)
  · intro key value field rest hget hsplit
    rw [FormState.get?_foldl_collapse_answers] at hget
    obtain ⟨hget, hlater⟩ := hget
    simp only [hcount]
    split
    · rename_i hmem
      by_contra hzero
      exact hlater ⟨field, rest, hsplit, hmem, by omega⟩
    · exact h.reachable key value field rest hget hsplit

theorem Step.consistent (hstep : session.Step operation reply next) (h : session.Consistent)
    (hpolicy : session.policy = .compact) (hallowed : operation.Allowed session) :
    next.Consistent := by
  cases hstep with
  | setAnswer key value => exact h.setAnswer hallowed
  | clearAnswer key => exact h.clearAnswer key
  | added hcheck hroom => exact h.withAdded hcheck
  | removed hcan => exact h.withRemoved hpolicy hcan
  | reset => exact consistent_of_empty
  | replaced hreplace => exact h.replaceDocument hreplace
  | kept => exact h
  | refused => exact h

/-! ### Histories -/

variable {first : Session} {events : List Event}

theorem eq_of_resume {document : Document} {state : FormState} {policy : RemovalPolicy}
    (h : resume document state policy = .ok session) : session = ⟨document, state, policy⟩ := by
  rw [resume] at h
  split at h
  · exact (Except.ok.inj h).symm
  · cases h

/-- What every step keeps holds of every session that has come about. -/
theorem History.preserves {motive : Session → Prop} (h : first.History events session)
    (hfirst : motive first)
    (hstep : ∀ session operation reply next, motive session → operation.Allowed session →
      session.Step operation reply next → motive next) : motive session := by
  induction h with
  | nil => exact hfirst
  | cons operation _ hallowed hperform ih =>
      exact hstep _ operation _ _ ih hallowed (step_of_perform hperform)

theorem History.policy_eq (h : first.History events session) : session.policy = first.policy :=
  h.preserves (motive := (·.policy = first.policy)) rfl fun _ _ _ _ hpolicy _ hstep =>
    hstep.policy_eq.trans hpolicy

/-- **Every reached session is consistent**: under the compact policy the groups with several
instances are repeatable groups of the current document, every answer of a field lies at a live
instance, and a step that fails leaves the document, the answers and the counts alone. -/
theorem reached_consistent {document : Document} (hstart : start document .compact = .ok first)
    (h : first.History events session) :
    session.Consistent ∧ ∀ operation reply next,
      session.perform operation = .ok (reply, next) → reply.failed = true → next = session := by
  refine ⟨?_, fun operation reply next hperform => (step_of_perform hperform).eq_of_failed⟩
  obtain rfl := eq_of_resume hstart
  have hkept := h.preserves
    (motive := fun session => session.Consistent ∧ session.policy = .compact)
    ⟨consistent_of_empty, rfl⟩ fun session operation reply next hsession hallowed hstep =>
      ⟨hstep.consistent hsession.1 hsession.2 hallowed, hstep.policy_eq.trans hsession.2⟩
  exact hkept.1

/-- A form with one question, to be answered for every sibling. -/
def siblingForm (repeatable : Bool) : Document :=
  ⟨"family.pdf", [⟨"Family", 1, [⟨"", [⟨"Siblings", repeatable, [.blank]⟩]⟩]⟩]⟩

/-- A person adds a sibling, names it and removes the other one, adds one again and then gets a form
for one sibling only. -/
theorem reached_consistent_siblings : ∃ first events session,
    start (siblingForm true) .compact = .ok first ∧ first.History events session ∧
      events.length = 5 ∧ session.answer? "p0_s0_g0_q0_i0" = some (.text "Ada") ∧
      session.Consistent := by
  have hlive (session : Session) (h : 1 < session.count ⟨0, 0, 0⟩) :
      (Operation.setAnswer "p0_s0_g0_q0_i1" (.text "Ada")).Allowed session := by
    intro field rest hsplit
    have hkey : FieldKey.split? "p0_s0_g0_q0_i1" = some (⟨0, 0, 0, 0, 1⟩, "") := by decide
    obtain ⟨rfl, rfl⟩ := Prod.mk.inj (Option.some.inj (hkey.symm.trans hsplit))
    exact h
  let first : Session := ⟨siblingForm true, .empty, .compact⟩
  have hstart : start (siblingForm true) .compact = .ok first := rfl
  have hadded := History.cons (.addInstance ⟨0, 0, 0⟩) (@History.nil first) trivial rfl
  have hnamed := hadded.cons _ (hlive _ (by decide)) rfl
  have hremoved := hnamed.cons (.removeInstance ⟨0, 0, 0⟩ 0) trivial rfl
  have hagain := hremoved.cons (.addInstance ⟨0, 0, 0⟩) trivial rfl
  have hreached := hagain.cons (.replaceDocument (siblingForm false)) trivial rfl
  exact ⟨first, _, _, hstart, hreached, rfl, rfl, (reached_consistent hstart hreached).1⟩

end Questionnaire.Session
