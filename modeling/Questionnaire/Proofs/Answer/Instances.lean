import Questionnaire.Proofs.Answer.Removal

/-! # Counting instances

What adding, removing and collapsing instances do to the count of every group, and what collapsing
does to the answers: `FormState.get?_foldl_collapse_answers` says what is left after several groups
have been collapsed. -/

namespace Questionnaire

namespace InstanceTable

variable {instances : InstanceTable}

theorem count_congr {former : InstanceTable} {group : GroupKey}
    (h : instances.get? group = former.get? group) :
    instances.count group = former.count group := by
  rw [count, count, h]

theorem count_insert_self (group : GroupKey) {n : Nat} (hn : 1 ≤ n) :
    count (instances.insert group n) group = n := by
  rw [count, Table.get?_insert, if_pos rfl]
  exact Nat.max_eq_right hn

theorem count_insert_of_ne {group other : GroupKey} (n : Nat) (h : other ≠ group) :
    count (instances.insert group n) other = instances.count other :=
  count_congr (by rw [Table.get?_insert, if_neg h])

theorem one_le_count (instances : InstanceTable) (group : GroupKey) : 1 ≤ instances.count group :=
  Nat.le_max_left _ _

/-- Adding an instance raises the count of the group by one, unless there is no such count. -/
theorem add_eq (instances : InstanceTable) (group : GroupKey) :
    instances.add group =
      if instances.count group + 1 < wordLimit then
        .ok (instances.count group + 1, instances.insert group (instances.count group + 1))
      else .error .addition := by
  rw [add, successor]
  split <;> rfl

theorem count_of_get?_eq_none {group : GroupKey} (h : instances.get? group = none) :
    instances.count group = 1 := by
  rw [count, h]
  rfl

end InstanceTable

namespace FormState

variable {state : FormState}

/-- An instance is removed exactly if it is there and not the only one. -/
theorem removeInstance?_eq_some_iff {policy : RemovalPolicy} {group : GroupKey} {index : Nat}
    {next : FormState} :
    state.removeInstance? policy group index = some next ↔
      1 < state.instances.count group ∧ index < state.instances.count group ∧
        next = ⟨state.answers.removeInstance policy group index,
          state.instances.insert group (state.instances.count group - 1)⟩ := by
  simp only [removeInstance?, Bool.or_eq_true, decide_eq_true_eq]
  by_cases h : state.instances.count group ≤ 1 ∨ state.instances.count group ≤ index
  · rw [if_pos h]
    simp only [reduceCtorEq, false_iff]
    omega
  · rw [if_neg h, Option.some.injEq, eq_comm]
    constructor
    · exact fun hnext => ⟨by omega, by omega, hnext⟩
    · exact fun hnext => hnext.2.2

/-! ### Collapsing -/

/-- Whether a key addresses a group at an instance after the first one. -/
def AddressesLater (groups : List GroupKey) (key : String) : Prop :=
  ∃ field rest, FieldKey.split? key = some (field, rest) ∧ field.groupKey ∈ groups ∧
    0 < field.instanceIndex

theorem get?_collapse_answers (group : GroupKey) (key : String) (value : AnswerValue) :
    (state.collapse group).answers.get? key = some value ↔
      state.answers.get? key = some value ∧ ¬ AddressesLater [group] key := by
  rw [collapse, AnswerStore.collapse, AnswerStore.get?_dropFields]
  simp [AddressesLater]

theorem get?_collapse_instances (group other : GroupKey) :
    (state.collapse group).instances.get? other
      = if other = group then none else state.instances.get? other :=
  Table.get?_erase state.instances group other

theorem addressesLater_cons (group : GroupKey) (groups : List GroupKey) (key : String) :
    AddressesLater (group :: groups) key ↔
      AddressesLater [group] key ∨ AddressesLater groups key := by
  simp only [AddressesLater, List.mem_cons, List.not_mem_nil, or_false]
  grind

/-- Collapsing some groups drops the answers of their later instances and no others. -/
theorem get?_foldl_collapse_answers (groups : List GroupKey) (state : FormState) (key : String)
    (value : AnswerValue) :
    (groups.foldl collapse state).answers.get? key = some value ↔
      state.answers.get? key = some value ∧ ¬ AddressesLater groups key := by
  induction groups generalizing state with
  | nil => simp [AddressesLater]
  | cons group groups ih =>
      rw [List.foldl_cons, ih, get?_collapse_answers, addressesLater_cons group groups, not_or,
        and_assoc]

/-- Collapsing some groups forgets their counts and no others. -/
theorem get?_foldl_collapse_instances (groups : List GroupKey) (state : FormState)
    (other : GroupKey) :
    (groups.foldl collapse state).instances.get? other
      = if other ∈ groups then none else state.instances.get? other := by
  induction groups generalizing state with
  | nil => simp
  | cons group groups ih =>
      rw [List.foldl_cons, ih, get?_collapse_instances]
      by_cases hmem : other ∈ groups
      · simp [hmem]
      · simp [hmem, List.mem_cons]

end FormState

end Questionnaire
