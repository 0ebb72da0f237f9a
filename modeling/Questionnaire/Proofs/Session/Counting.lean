import Questionnaire.Proofs.Answer.Codec
import Questionnaire.Proofs.Session.Run

/-! # How instance counts develop

Along a run in which instances are added and removed, the count of a group is what it was at first
plus the additions less the removals (`Session.count_history`). Counts are 64-bit words, and an
addition that would take one beyond the largest word stops the program; no other step does. A saved
state may hold any word as a count, so that the first addition may be the one
(`Session.exists_stopped_addition`). -/

namespace Questionnaire

theorem FormState.yields_decode :
    Decoder.Yields decode fun state => state.instances.Holds (· < wordLimit) := by
  refine Decoder.yields_record (Table.holds_empty _) fun f hf => ?_
  simp only [fields, List.mem_cons, List.not_mem_nil, or_false] at hf
  rcases hf with rfl | rfl
  · exact Decoder.keeps_field (Decoder.yields_true _) fun _ _ _ hstate => hstate
  · exact Decoder.keeps_field (Decoder.yields_nat wordLimit "usize").table
      fun _ _ hcounts _ => hcounts

/-- Counts are words if those in the table are. -/
theorem InstanceTable.count_lt_of_holds {instances : InstanceTable}
    (h : instances.Holds (· < wordLimit)) (group : GroupKey) :
    instances.count group < wordLimit := by
  rw [count]
  cases hget : instances.get? group with
  | none => decide
  | some n => exact Nat.max_lt.2 ⟨by decide, h group n hget⟩

namespace Session

variable {first session next : Session} {operation : Operation} {reply : Reply}
  {events : List Event}

/-! ### One step -/

/-- An addition that is counted replies the new count, which is one more than before. -/
theorem added_of_perform {group : GroupKey} {n : Nat}
    (h : session.perform (.addInstance group) = .ok (.added n, next)) :
    n = session.count group + 1 ∧ next = session.withAdded group := by
  cases step_of_perform h
  exact ⟨rfl, rfl⟩

/-- No step takes a count beyond the words. -/
theorem Step.count_lt (hstep : session.Step operation reply next)
    (h : ∀ group, session.count group < wordLimit) (group : GroupKey) :
    next.count group < wordLimit := by
  have hsame := h group
  cases hstep with
  | setAnswer | clearAnswer | kept | refused => exact hsame
  | added _ hroom =>
      rw [count_withAdded]
      split
      · exact hroom
      · exact hsame
  | @removed other _ hcan =>
      rw [count_withRemoved hcan]
      split
      · exact Nat.lt_of_le_of_lt (Nat.sub_le _ _) (h other)
      · exact hsame
  | reset => exact InstanceTable.count_lt_of_holds (Table.holds_empty _) group
  | replaced hreplace =>
      rw [count, count_replaceDocument hreplace]
      split
      · decide
      · exact hsame

theorem History.count_lt (hhistory : first.History events session)
    (h : ∀ group, first.count group < wordLimit) : ∀ group, session.count group < wordLimit :=
  hhistory.preserves h fun _ _ _ _ hsession _ hstep => hstep.count_lt hsession

/-! ### Runs -/

/-- Whether an operation adds or removes an instance. -/
def Operation.recounts : Operation → Bool
  | .addInstance _ => true
  | .removeInstance _ _ => true
  | _ => false

/-- Whether an instance has been added to the group. -/
def Event.adds (group : GroupKey) (event : Event) : Bool :=
  match event.operation, event.reply with
  | .addInstance other, .added _ => other == group
  | _, _ => false

/-- Whether an instance has been removed from the group. -/
def Event.removes (group : GroupKey) (event : Event) : Bool :=
  match event.operation, event.reply with
  | .removeInstance other _, .removed true => other == group
  | _, _ => false

/-- What one step does to the count of a group. -/
theorem Step.count_eq (hstep : session.Step operation reply next)
    (hrecounts : operation.recounts = true) (group : GroupKey) :
    next.count group + (if Event.removes group ⟨session, operation, reply⟩ then 1 else 0) =
      session.count group + if Event.adds group ⟨session, operation, reply⟩ then 1 else 0 := by
  cases hstep with
  | setAnswer | clearAnswer | reset | replaced => cases hrecounts
  | @added other =>
      rw [count_withAdded]
      by_cases hgroup : group = other
      · simp [Event.removes, Event.adds, hgroup]
      · simp [Event.removes, Event.adds, hgroup, Ne.symm hgroup]
  | @removed other index hcan =>
      rw [count_withRemoved hcan]
      by_cases hgroup : group = other
      · have hseveral := hcan.2.1
        simp only [Event.removes, Event.adds, hgroup, if_true, beq_self_eq_true, Bool.false_eq_true,
          if_false]
        omega
      · simp [Event.removes, Event.adds, hgroup, Ne.symm hgroup]
  | kept => rfl
  | refused => cases operation <;> rfl

/-- Along a run the additions and removals of a group add up to its count. -/
theorem count_history (hhistory : first.History events session)
    (hrecount : ∀ event ∈ events, event.operation.recounts = true) (group : GroupKey) :
    session.count group + events.countP (·.removes group) =
      first.count group + events.countP (·.adds group) := by
  induction hhistory with
  | nil => rfl
  | @cons events session next reply operation _ _ hperform ih =>
      obtain ⟨hlast, hearlier⟩ := List.forall_mem_cons.1 hrecount
      have hstep := (step_of_perform hperform).count_eq hlast group
      have hbefore := ih hearlier
      rw [List.countP_cons, List.countP_cons]
      omega

/-- **Counts add up until one is full.** A session goes on from any state that a text gives, and
instances are added and removed. Then the count of a group is the count that was read, or one if
that was less, plus the additions to the group less the removals from it, and it is a 64-bit word.
An addition to the group that follows replies the new count. It stops the program exactly if the
group is repeatable and its count is the largest word, so not before the additions have brought the
count that was read there; a removal never does. -/
theorem count_of_loaded {text : String} {state : FormState} {document : Document}
    {policy : RemovalPolicy} (hread : FormState.decode.ofText text = .ok state)
    (hresume : resume document state policy = .ok first) (hhistory : first.History events session)
    (hrecount : ∀ event ∈ events, event.operation.recounts = true) (group : GroupKey) :
    1 ≤ session.count group ∧ session.count group < wordLimit ∧
      session.count group + events.countP (·.removes group) =
        max 1 ((state.instances.get? group).getD 1) + events.countP (·.adds group) ∧
      (∀ n next, session.perform (.addInstance group) = .ok (.added n, next) →
        n = next.count group ∧ n = session.count group + 1) ∧
      ((∃ overflow, session.perform (.addInstance group) = .error overflow) ↔
        session.checkRepeatable group = .ok () ∧ session.count group + 1 = wordLimit) ∧
      (max 1 ((state.instances.get? group).getD 1) + events.countP (·.adds group) + 1 < wordLimit →
        ∃ reply next, session.perform (.addInstance group) = .ok (reply, next)) ∧
      ∀ index, ∃ reply next, session.perform (.removeInstance group index) = .ok (reply, next) := by
  obtain rfl := eq_of_resume hresume
  have hlt : session.count group < wordLimit :=
    hhistory.count_lt (InstanceTable.count_lt_of_holds (FormState.yields_decode.source hread)) group
  have hsum := count_history hhistory hrecount group
  have hreplies (operation : Operation)
      (hgoes : ∀ overflow, session.perform operation ≠ .error overflow) :
      ∃ reply next, session.perform operation = .ok (reply, next) := by
    cases hperform : session.perform operation with
    | error overflow => exact absurd hperform (hgoes overflow)
    | ok result => exact ⟨result.1, result.2, rfl⟩
  have hstops (overflow : Overflow) : session.perform (.addInstance group) = .error overflow ↔
      session.checkRepeatable group = .ok () ∧ session.count group + 1 = wordLimit := by
    simp only [perform_eq_error_iff, Operation.addInstance.injEq, exists_eq_left']
    exact and_congr_right fun _ => by omega
  refine ⟨InstanceTable.one_le_count _ group, hlt, hsum, ?_, ?_, ?_, ?_⟩
  · intro n next hadd
    obtain ⟨rfl, rfl⟩ := added_of_perform hadd
    exact ⟨by rw [count_withAdded, if_pos rfl], rfl⟩
  · simp only [hstops, exists_const_iff]
    exact and_iff_right ⟨.addition⟩
  · intro hroom
    refine hreplies _ fun overflow hstop => ?_
    have hfull := ((hstops overflow).1 hstop).2
    have hloaded : count ⟨document, state, policy⟩ group =
        max 1 ((state.instances.get? group).getD 1) := rfl
    omega
  · intro index
    refine hreplies _ fun overflow hstop => ?_
    obtain ⟨_, hother, -⟩ := perform_eq_error_iff.1 hstop
    cases hother

/-- A state in which a group has as many instances as can be counted. -/
def fullState : FormState := ⟨Table.empty, Table.ofList [(⟨0, 0, 0⟩, wordLimit - 1)]⟩

theorem decode_fullState : FormState.decode.ofText fullState.toJson.compact = .ok fullState :=
  FormState.decode_saved ⟨by decide, by decide⟩

/-- One of these instances is removed and another one is added; a further one stops the program. -/
theorem count_of_loaded_fullState : ∃ first events session,
    FormState.decode.ofText fullState.toJson.compact = .ok fullState ∧
      resume (siblingForm true) fullState .compact = .ok first ∧
      first.History events session ∧ (∀ event ∈ events, event.operation.recounts = true) ∧
      session.count ⟨0, 0, 0⟩ + 1 = wordLimit - 1 + 1 ∧
      ∃ overflow, session.perform (.addInstance ⟨0, 0, 0⟩) = .error overflow := by
  have hresume : resume (siblingForm true) fullState .compact =
      .ok ⟨siblingForm true, fullState, .compact⟩ := rfl
  have hremoved := History.cons (.removeInstance ⟨0, 0, 0⟩ 1)
    (@History.nil ⟨siblingForm true, fullState, .compact⟩) trivial rfl
  have hagain := hremoved.cons (.addInstance ⟨0, 0, 0⟩) trivial rfl
  obtain ⟨-, -, hsum, -, hstops, -, -⟩ :=
    count_of_loaded decode_fullState hresume hagain (List.all_eq_true.1 rfl) ⟨0, 0, 0⟩
  exact ⟨_, _, _, decode_fullState, hresume, hagain, List.all_eq_true.1 rfl, hsum,
    hstops.2 ⟨rfl, rfl⟩⟩

/-- So an addition to a repeatable group may stop the program: a session goes on from a state with
the largest count. -/
theorem exists_stopped_addition : ∃ first overflow,
    FormState.decode.ofText fullState.toJson.compact = .ok fullState ∧
      resume (siblingForm true) fullState .compact = .ok first ∧
      first.checkRepeatable ⟨0, 0, 0⟩ = .ok () ∧
      first.perform (.addInstance ⟨0, 0, 0⟩) = .error overflow :=
  ⟨_, .addition, decode_fullState, rfl, rfl, rfl⟩

end Session

end Questionnaire
