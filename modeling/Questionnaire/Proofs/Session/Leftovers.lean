import Questionnaire.Proofs.Answer.Effect
import Questionnaire.Proofs.Session.Counting

/-! # What a removal leaves behind

Under the preserving policy a removal leaves the answers of later instances where they are, and the
last of them, which is no instance any more, keeps its answers out of reach
(`Session.Stranded`). A single step strands an answer or keeps it stranded in few ways
(`Session.Step.stranded_iff`), so that the history of a session tells which answers have been
left behind (`Session.LeftBehind`, `Session.leftBehind_iff`). An instance that is added later
shows exactly those that were left behind at its place. -/

namespace Questionnaire.Session

/-- An answer that is kept beyond the instances of its group. -/
def Stranded (session : Session) (field : FieldKey) (key : String) (value : AnswerValue) : Prop :=
  session.answer? key = some value ∧ session.count field.groupKey ≤ field.instanceIndex

/-- Whether an operation takes the instance of a field out of reach but leaves its answers: it
removes an earlier instance of the group, of which this is the last one. -/
def Operation.Strands (session : Session) (field : FieldKey) : Operation → Prop
  | .removeInstance group index => group = field.groupKey ∧ session.CanRemove group index ∧
      index < field.instanceIndex ∧ session.count group = field.instanceIndex + 1
  | _ => False

/-- Whether an operation drops an answer that lies out of reach: it clears it, or all answers, or it
collapses its group. -/
def Operation.Drops (session : Session) (field : FieldKey) (key : String) : Operation → Prop
  | .clearAnswer other => other = key
  | .reset => True
  | .replaceDocument document => document.isUsable = true ∧
      field.groupKey ∈ overfilledGroups document session.state.instances
  | _ => False

/-! ### One step -/

section step

variable {session next : Session} {operation : Operation} {reply : Reply} {field : FieldKey}
  {key rest : String} {value : AnswerValue}

/-- What one step makes of an answer: it is stranded afterwards if the step strands it, or if it
was stranded before and the step neither drops it nor brings its instance back. -/
def StrandedBy (session : Session) (operation : Operation) (next : Session) (field : FieldKey)
    (key : String) (value : AnswerValue) : Prop :=
  (operation.Strands session field ∧ session.answer? key = some value) ∨
    (session.Stranded field key value ∧ ¬ operation.Drops session field key ∧
      next.count field.groupKey ≤ field.instanceIndex)

theorem stranded_setAnswer_iff {other : String} {given : AnswerValue}
    (hsplit : FieldKey.split? key = some (field, rest))
    (hallowed : (Operation.setAnswer other given).Allowed session) :
    (session.setAnswer other given).Stranded field key value ↔
      session.StrandedBy (.setAnswer other given) (session.setAnswer other given) field key
        value := by
  have hcount : (session.setAnswer other given).count field.groupKey =
    session.count field.groupKey := rfl
  by_cases hkey : key = other
  · -- an instance that is answered is in reach
    subst hkey
    have hlive : ¬ session.count field.groupKey ≤ field.instanceIndex :=
      Nat.not_le.2 (hallowed field rest hsplit)
    simp [Stranded, StrandedBy, Operation.Strands, hcount, hlive]
  · have hanswer : (session.setAnswer other given).answer? key = session.answer? key := by
      rw [answer?, setAnswer, Table.get?_insert, if_neg hkey, answer?]
    simp only [StrandedBy, Stranded, Operation.Strands, Operation.Drops, hcount, hanswer]
    tauto

theorem stranded_clearAnswer_iff {other : String} :
    (session.clearAnswer other).Stranded field key value ↔
      session.StrandedBy (.clearAnswer other) (session.clearAnswer other) field key value := by
  have hcount : (session.clearAnswer other).count field.groupKey =
    session.count field.groupKey := rfl
  by_cases hkey : key = other
  · subst hkey
    have hanswer : (session.clearAnswer key).answer? key = none := by
      rw [answer?, clearAnswer, Table.get?_erase, if_pos rfl]
    simp [StrandedBy, Stranded, Operation.Strands, Operation.Drops, hanswer]
  · have hanswer : (session.clearAnswer other).answer? key = session.answer? key := by
      rw [answer?, clearAnswer, Table.get?_erase, if_neg hkey, answer?]
    simp only [StrandedBy, Stranded, Operation.Strands, Operation.Drops, hcount, hanswer,
      Ne.symm hkey]
    tauto

/-- A new instance is the only one that comes into reach. -/
theorem stranded_withAdded_iff (group : GroupKey) :
    (session.withAdded group).Stranded field key value ↔
      session.StrandedBy (.addInstance group) (session.withAdded group) field key value := by
  have hanswer : (session.withAdded group).answer? key = session.answer? key := rfl
  have hcount : (session.withAdded group).count field.groupKey ≤ field.instanceIndex →
      session.count field.groupKey ≤ field.instanceIndex := by
    rw [count_withAdded]
    split
    · rename_i hgroup
      rw [hgroup]
      omega
    · exact id
  simp only [StrandedBy, Stranded, Operation.Strands, Operation.Drops, hanswer]
  tauto

theorem stranded_withRemoved_iff (hpolicy : session.policy = .preserve)
    (hsplit : FieldKey.split? key = some (field, rest)) {group : GroupKey} {index : Nat}
    (hcan : session.CanRemove group index) :
    (session.withRemoved group index).Stranded field key value ↔
      session.StrandedBy (.removeInstance group index) (session.withRemoved group index) field key
        value := by
  have hcount := count_withRemoved hcan field.groupKey
  obtain ⟨-, hseveral, hindex⟩ := id hcan
  simp only [StrandedBy, Stranded, Operation.Strands, Operation.Drops, hcan, true_and,
    not_false_eq_true]
  rw [hcount]
  by_cases hgroup : field.groupKey = group
  · have hanswer : (session.withRemoved group index).answer? key =
        if field.instanceIndex = index then none else session.answer? key := by
      rw [answer?, withRemoved, hpolicy]
      exact AnswerStore.get?_removeInstance_preserve_of_split? hsplit hgroup
    subst hgroup
    rw [hanswer, if_pos rfl]
    -- the last instance is out of reach afterwards, and keeps its answers unless it is removed
    grind
  · have hanswer : (session.withRemoved group index).answer? key = session.answer? key := by
      obtain ⟨rfl, hfits, hends⟩ := FieldKey.split?_eq_some_iff.1 hsplit
      rw [answer?, withRemoved]
      exact AnswerStore.get?_removeInstance_of_not_addresses
        (GroupKey.not_addresses_append hends hgroup)
    simp [hgroup, Ne.symm hgroup, hanswer]

theorem not_stranded_reset : ¬ session.reset.Stranded field key value := by
  rintro ⟨hanswer, -⟩
  rw [answer?, reset, FormState.empty, Table.get?_empty] at hanswer
  cases hanswer

theorem stranded_replaceDocument_iff (hsplit : FieldKey.split? key = some (field, rest))
    {document : Document} (hreplace : session.replaceDocument document = .ok next) :
    next.Stranded field key value ↔
      session.StrandedBy (.replaceDocument document) next field key value := by
  have husable : document.isUsable = true := by
    rw [replaceDocument] at hreplace
    split at hreplace
    · assumption
    · cases hreplace
  have hcount := count_replaceDocument hreplace field.groupKey
  have hanswer : next.answer? key = some value ↔ session.answer? key = some value ∧
      ¬ FormState.AddressesLater (overfilledGroups document session.state.instances) key := by
    rw [replaceDocument_eq_ok hreplace]
    exact FormState.get?_foldl_collapse_answers _ _ _ _
  have hlater :
      FormState.AddressesLater (overfilledGroups document session.state.instances) key ↔
        field.groupKey ∈ overfilledGroups document session.state.instances ∧
          0 < field.instanceIndex := by
    simp [FormState.AddressesLater, hsplit]
  simp only [StrandedBy, Stranded, Operation.Strands, Operation.Drops, hanswer, hlater, husable,
    count, hcount, true_and, false_and, false_or]
  grind

/-- A step from which nothing comes strands nothing and drops nothing. -/
theorem stranded_of_refused {error : SessionError} (h : operation.check session = .error error) :
    session.Stranded field key value ↔ session.StrandedBy operation session field key value := by
  have hnone : ¬ operation.Strands session field ∧ ¬ operation.Drops session field key := by
    cases operation with
    | removeInstance group index =>
        refine ⟨fun hstrands => ?_, id⟩
        have hcheck := hstrands.2.1.1
        rw [Operation.check, hcheck] at h
        cases h
    | replaceDocument document =>
        refine ⟨id, fun hdrops => ?_⟩
        rw [Operation.check, replaceDocument, if_pos hdrops.1] at h
        cases h
    | addInstance group => exact ⟨id, id⟩
    | setAnswer | clearAnswer | reset => cases h
  simp only [StrandedBy, hnone, Stranded]
  tauto

/-- **One step.** Under the preserving policy an answer is stranded exactly if the step strands it
or leaves it stranded. -/
theorem Step.stranded_iff (hstep : session.Step operation reply next)
    (hpolicy : session.policy = .preserve) (hsplit : FieldKey.split? key = some (field, rest))
    (hallowed : operation.Allowed session) :
    next.Stranded field key value ↔ session.StrandedBy operation next field key value := by
  cases hstep with
  | setAnswer other given => exact stranded_setAnswer_iff hsplit hallowed
  | clearAnswer other => exact stranded_clearAnswer_iff
  | added => exact stranded_withAdded_iff _
  | removed hcan => exact stranded_withRemoved_iff hpolicy hsplit hcan
  | kept _ hnot =>
      simp only [StrandedBy, Stranded, Operation.Strands, Operation.Drops, hnot]
      tauto
  | reset =>
      refine ⟨fun h => (not_stranded_reset h).elim, ?_⟩
      rintro (⟨hstrands, -⟩ | ⟨-, hkept, -⟩)
      · exact hstrands.elim
      · exact (hkept trivial).elim
  | replaced hreplace => exact stranded_replaceDocument_iff hsplit hreplace
  | refused hcheck => exact stranded_of_refused hcheck

end step

/-! ### Histories -/

/-- Whether an answer has been left behind at the instance of a field: some step has stranded it,
and since then none has dropped it and the instance has been out of reach. -/
def LeftBehind (field : FieldKey) (key : String) (value : AnswerValue) :
    List Event → Session → Prop
  | [], _ => False
  | event :: earlier, session =>
      (event.operation.Strands event.before field ∧ event.before.answer? key = some value) ∨
        (LeftBehind field key value earlier event.before ∧
          ¬ event.operation.Drops event.before field key ∧
          session.count field.groupKey ≤ field.instanceIndex)

variable {document : Document} {first session next : Session} {events : List Event}
  {field : FieldKey} {key rest : String} {value : AnswerValue}

/-- What has been left behind is what lies out of reach. -/
theorem leftBehind_iff (hstart : start document .preserve = .ok first)
    (hhistory : first.History events session) (hsplit : FieldKey.split? key = some (field, rest)) :
    LeftBehind field key value events session ↔ session.Stranded field key value := by
  obtain rfl := eq_of_resume hstart
  induction hhistory with
  | nil => simp [LeftBehind, Stranded, answer?, FormState.empty]
  | @cons earlier before now reply operation hearlier hallowed hperform ih =>
      have hstep : now.Stranded field key value ↔ before.StrandedBy operation now field key value :=
        (step_of_perform hperform).stranded_iff hearlier.policy_eq hsplit hallowed
      exact Iff.trans (or_congr_right (and_congr_left' ih)) hstep.symm

/-- Whatever has been left behind has been stranded by some step. -/
theorem exists_strands_of_leftBehind (h : LeftBehind field key value events session) :
    ∃ event ∈ events, event.operation.Strands event.before field ∧
      event.before.answer? key = some value := by
  induction events generalizing session with
  | nil => exact h.elim
  | cons event earlier ih =>
      rcases h with ⟨hstrands, hanswer⟩ | ⟨hearlier, -⟩
      · exact ⟨event, List.mem_cons_self, hstrands, hanswer⟩
      · obtain ⟨cause, hmem, hcause⟩ := ih hearlier
        exact ⟨cause, List.mem_cons_of_mem _ hmem, hcause⟩

/-- **A new instance shows what was left behind for it.** Under the preserving policy, when fields
are answered at live instances only, the answers at the last instance of a group to which one has
just been added are exactly those that had been left behind there. So the instance is blank if of
the instances of its group only the last was ever removed. -/
theorem answers_of_addInstance (hstart : start document .preserve = .ok first)
    (hhistory : first.History events session) {group : GroupKey} {n : Nat}
    (hadd : session.perform (.addInstance group) = .ok (.added n, next)) :
    (∀ key field rest, FieldKey.split? key = some (field, rest) → field.groupKey = group →
      field.instanceIndex + 1 = n →
        ∀ value, next.answer? key = some value ↔ LeftBehind field key value events session) ∧
    ((∀ event ∈ events, ∀ index, event.operation = .removeInstance group index →
        event.before.CanRemove group index → index + 1 = event.before.count group) →
      ∀ key value, next.answer? key = some value → keyInInstance key group (n - 1) = false) := by
  obtain ⟨rfl, rfl⟩ := added_of_perform hadd
  have hleft : ∀ key field rest, FieldKey.split? key = some (field, rest) → field.groupKey = group →
      field.instanceIndex + 1 = session.count group + 1 → ∀ value,
        (session.withAdded group).answer? key = some value ↔
          LeftBehind field key value events session := by
    intro key field rest hsplit hgroup hindex value
    rw [leftBehind_iff hstart hhistory hsplit, Stranded, hgroup]
    exact (and_iff_left (by omega)).symm
  refine ⟨hleft, fun hlast key value hget => ?_⟩
  by_contra hkey
  obtain ⟨field, rest, hsplit, hgroup, hindex⟩ := keyInInstance_iff.1 (Bool.of_not_eq_false hkey)
  have hbehind := (hleft key field rest hsplit hgroup (by omega) value).1 hget
  obtain ⟨⟨before, operation, reply⟩, hmem, hstrands, -⟩ := exists_strands_of_leftBehind hbehind
  cases operation with
  | removeInstance other index =>
      obtain ⟨rfl, hcan, hbefore, hfull⟩ := hstrands
      have hindex := hlast _ hmem index (congrArg (Operation.removeInstance · index) hgroup)
        (hgroup ▸ hcan)
      rw [← hgroup] at hindex
      simp only at hfull hindex
      omega
  | setAnswer | clearAnswer | addInstance | reset | replaceDocument => exact hstrands

theorem split?_leftover :
    FieldKey.split? "p0_s0_g0_q0_i1" = some (⟨0, 0, 0, 0, 1⟩, "") := by
  decide

/-- Two instances of a group of which the second is answered, and then the first is removed: what is
left behind, and the session into which another instance comes. -/
theorem exists_leftover : ∃ first events session next,
    start (siblingForm true) .preserve = .ok first ∧ first.History events session ∧
      LeftBehind ⟨0, 0, 0, 0, 1⟩ "p0_s0_g0_q0_i1" (.text "Ben") events session ∧
      session.perform (.addInstance ⟨0, 0, 0⟩) = .ok (.added 2, next) := by
  let first : Session := ⟨siblingForm true, .empty, .preserve⟩
  have hadded := History.cons (.addInstance ⟨0, 0, 0⟩) (@History.nil first) trivial rfl
  have hlive : (Operation.setAnswer "p0_s0_g0_q0_i1" (.text "Ben")).Allowed
      (first.withAdded ⟨0, 0, 0⟩) := by
    intro field rest hsplit
    obtain ⟨rfl, rfl⟩ := Prod.mk.inj (Option.some.inj (hsplit.symm.trans split?_leftover))
    decide
  have hnamed := hadded.cons _ hlive rfl
  have hremoved := hnamed.cons (.removeInstance ⟨0, 0, 0⟩ 0) trivial rfl
  refine ⟨first, _, _, _, rfl, hremoved, .inl ⟨⟨rfl, ⟨rfl, ?_, ?_⟩, ?_, rfl⟩, rfl⟩, rfl⟩ <;> decide

theorem answers_of_addInstance_leftover : ∃ first events session next,
    start (siblingForm true) .preserve = .ok first ∧ first.History events session ∧
      session.perform (.addInstance ⟨0, 0, 0⟩) = .ok (.added 2, next) ∧
      next.answer? "p0_s0_g0_q0_i1" = some (.text "Ben") := by
  obtain ⟨first, events, session, next, hstart, hhistory, hbehind, hadd⟩ := exists_leftover
  obtain ⟨hanswers, -⟩ := answers_of_addInstance hstart hhistory hadd
  exact ⟨first, events, session, next, hstart, hhistory, hadd,
    (hanswers _ _ _ split?_leftover rfl rfl _).2 hbehind⟩

/-- So an instance that is added may have an answer already: one that was kept when its instance
went out of reach. -/
theorem exists_answered_addition : ∃ first events session n next key,
    start (siblingForm true) .preserve = .ok first ∧ first.History events session ∧
      session.perform (.addInstance ⟨0, 0, 0⟩) = .ok (.added n, next) ∧
      keyInInstance key ⟨0, 0, 0⟩ (n - 1) = true ∧ next.answer? key = some (.text "Ben") := by
  obtain ⟨first, events, session, next, hstart, hhistory, hbehind, hadd⟩ := exists_leftover
  obtain ⟨hanswer, -⟩ := (leftBehind_iff hstart hhistory split?_leftover).1 hbehind
  refine ⟨first, events, session, 2, next, "p0_s0_g0_q0_i1", hstart, hhistory, hadd, ?_, ?_⟩
  · exact keyInInstance_iff.2 ⟨_, _, split?_leftover, rfl, rfl⟩
  · obtain ⟨-, rfl⟩ := added_of_perform hadd
    exact hanswer

end Questionnaire.Session
