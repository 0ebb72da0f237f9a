import Questionnaire.Proofs.Answer.Effect

/-! # Removals one after the other

How removals combine. In different groups they do not get into each other's way
(`FormState.remove_comm`). In one group the later instance can be taken out first or last, as long
as its index is counted among the instances that are there (`FormState.removeAll?_pair`). And where
the answers end with the last instance, to collapse a group is to take out its last instance again
and again (`FormState.removeAll?_later`). Under both ways to write the keys anew stands one fact:
to rename keys twice is to rename them once (`AnswerStore.rekey_rekey`). -/

namespace Questionnaire

/-! ### Where keys go -/

section Keys

variable {p q : RemovalPolicy} {a b group : GroupKey} {i j n : Nat} {key target rest : String}
  {field : FieldKey}

/-- A removal in one group brings no key into another. -/
theorem not_addresses_of_keyAfterRemoval? (hne : a ≠ b)
    (hmoves : keyAfterRemoval? q b j key = some target) (h : ¬ a.Addresses key) :
    ¬ a.Addresses target := by
  rcases keyAfterRemoval?_eq_some hmoves with
    ⟨-, rfl⟩ | ⟨field, rest, i, -, hends, hgroup, -, -, rfl⟩
  · exact h
  · have hother : (field.withInstance i).groupKey ≠ a := fun heq => hne (heq.symm.trans hgroup)
    exact GroupKey.not_addresses_append hends hother

theorem keyAfterRemoval?_bind_of_not_addresses (hne : a ≠ b) (h : ¬ a.Addresses key) :
    (keyAfterRemoval? q b j key).bind (keyAfterRemoval? p a i) = keyAfterRemoval? q b j key := by
  cases hmoves : keyAfterRemoval? q b j key with
  | none => rfl
  | some target =>
      exact keyAfterRemoval?_of_not_addresses (not_addresses_of_keyAfterRemoval? hne hmoves h)

theorem GroupKey.Addresses.eq (ha : a.Addresses key) (hb : b.Addresses key) : a = b := by
  obtain ⟨field, rest, hsplit, rfl⟩ := ha
  obtain ⟨other, tail, hsplit', rfl⟩ := hb
  rw [hsplit] at hsplit'
  rw [(Prod.mk.inj (Option.some.inj hsplit')).1]

/-- Two removals in different groups bring a key to the same place in either order. -/
theorem keyAfterRemoval?_bind_comm (hne : a ≠ b) :
    (keyAfterRemoval? p a i key).bind (keyAfterRemoval? q b j) =
      (keyAfterRemoval? q b j key).bind (keyAfterRemoval? p a i) := by
  -- A key addresses one group at most, so one of the two removals leaves it alone.
  by_cases ha : a.Addresses key
  · have hb : ¬ b.Addresses key := fun hb => hne (ha.eq hb)
    rw [keyAfterRemoval?_bind_of_not_addresses hne.symm hb,
      keyAfterRemoval?_of_not_addresses hb, Option.bind_some]
  · rw [keyAfterRemoval?_bind_of_not_addresses hne ha, keyAfterRemoval?_of_not_addresses ha,
      Option.bind_some]

/-- Of two removals in one group, a key of the group follows its instance through both. -/
theorem keyAfterRemoval?_bind_append (hfits : field.Fits) (hends : EndsCoordinate rest.toList)
    (hgroup : field.groupKey = group) :
    (keyAfterRemoval? p group i (field.text ++ rest)).bind (keyAfterRemoval? q group j) =
      ((instanceAfter? p i field.instanceIndex).bind (instanceAfter? q j)).map fun k =>
        (field.withInstance k).text ++ rest := by
  rw [keyAfterRemoval?_append hfits hends hgroup]
  cases hmoves : instanceAfter? p i field.instanceIndex with
  | none => rfl
  | some k =>
      have hk : k < wordLimit :=
        Nat.lt_of_le_of_lt (instanceAfter?_le hmoves) (FieldKey.fits_iff.1 hfits).2.2
      have hgroup' : (field.withInstance k).groupKey = group := hgroup
      rw [Option.map_some, Option.bind_some, Option.bind_some,
        keyAfterRemoval?_append (FieldKey.fits_withInstance hfits hk) hends hgroup']
      rfl

theorem formerInstance_comm (hlt : i < j) (k : Nat) :
    formerInstance j (formerInstance i k) = formerInstance i (formerInstance (j - 1) k) := by
  unfold formerInstance
  split_ifs <;> omega

theorem instanceAfter?_bind_compact (k : Nat) :
    ((instanceAfter? .compact i k).bind (instanceAfter? .compact j) = some n) ↔
      k = formerInstance i (formerInstance j n) := by
  simp only [Option.bind_eq_some_iff, instanceAfter?_compact]
  constructor
  · rintro ⟨middle, rfl, rfl⟩
    rfl
  · intro hk
    exact ⟨_, hk, rfl⟩

/-- Under the compact policy the later of two instances can be taken out first, or after the other
one, when it has come one forward. -/
theorem instanceAfter?_bind_comm (hlt : i < j) (k : Nat) :
    (instanceAfter? .compact j k).bind (instanceAfter? .compact i) =
      (instanceAfter? .compact i k).bind (instanceAfter? .compact (j - 1)) := by
  ext n
  rw [instanceAfter?_bind_compact, instanceAfter?_bind_compact, formerInstance_comm hlt]

theorem keyAfterRemoval?_bind_compact (hlt : i < j) :
    (keyAfterRemoval? .compact group j key).bind (keyAfterRemoval? .compact group i) =
      (keyAfterRemoval? .compact group i key).bind (keyAfterRemoval? .compact group (j - 1)) := by
  by_cases haddr : group.Addresses key
  · obtain ⟨field, rest, hsplit, hgroup⟩ := haddr
    obtain ⟨rfl, hfits, hends⟩ := FieldKey.split?_eq_some_iff.1 hsplit
    rw [keyAfterRemoval?_bind_append hfits hends hgroup,
      keyAfterRemoval?_bind_append hfits hends hgroup, instanceAfter?_bind_comm hlt]
  · simp only [keyAfterRemoval?_of_not_addresses haddr, Option.bind_some]

end Keys

/-! ### What the stores hold -/

namespace AnswerStore

variable {answers : AnswerStore} {group : GroupKey} {index n : Nat}

/-- To rename keys and then to rename them again is to rename them once, if no two meet. -/
theorem rekey_rekey {first second : String → Option String}
    (hfirst : ∀ {a b target}, first a = some target → first b = some target → a = b)
    (hsecond : ∀ {a b target}, second a = some target → second b = some target → a = b) :
    (answers.rekey first).rekey second = answers.rekey fun key => (first key).bind second := by
  have hboth : ∀ {a b target}, (first a).bind second = some target →
      (first b).bind second = some target → a = b := by
    intro a b target ha hb
    obtain ⟨x, hx, hxt⟩ := Option.bind_eq_some_iff.1 ha
    obtain ⟨y, hy, hyt⟩ := Option.bind_eq_some_iff.1 hb
    obtain rfl := hsecond hxt hyt
    exact hfirst hx hy
  refine Table.ext_get? fun target => Option.ext fun value => ?_
  rw [get?_rekey_eq_some_iff hsecond, get?_rekey_eq_some_iff hboth]
  simp only [get?_rekey_eq_some_iff hfirst, Option.bind_eq_some_iff]
  constructor
  · rintro ⟨middle, hthen, key, hfirst, hget⟩
    exact ⟨key, ⟨middle, hfirst, hthen⟩, hget⟩
  · rintro ⟨key, ⟨middle, hfirst, hthen⟩, hget⟩
    exact ⟨middle, hthen, key, hfirst, hget⟩

theorem removeInstance_removeInstance (p q : RemovalPolicy) (a b : GroupKey) (i j : Nat) :
    (answers.removeInstance p a i).removeInstance q b j =
      answers.rekey fun key => (keyAfterRemoval? p a i key).bind (keyAfterRemoval? q b j) := by
  rw [removeInstance_eq_rekey, removeInstance_eq_rekey]
  exact rekey_rekey keyAfterRemoval?_inj keyAfterRemoval?_inj

theorem removeInstance_comm (p q : RemovalPolicy) {a b : GroupKey} (hne : a ≠ b) (i j : Nat) :
    (answers.removeInstance p a i).removeInstance q b j =
      (answers.removeInstance q b j).removeInstance p a i := by
  rw [removeInstance_removeInstance, removeInstance_removeInstance]
  exact congrArg answers.rekey (funext fun _ => keyAfterRemoval?_bind_comm hne)

theorem removeInstance_compact_pair {i j : Nat} (hlt : i < j) :
    (answers.removeInstance .compact group j).removeInstance .compact group i =
      (answers.removeInstance .compact group i).removeInstance .compact group (j - 1) := by
  rw [removeInstance_removeInstance, removeInstance_removeInstance]
  exact congrArg answers.rekey (funext fun _ => keyAfterRemoval?_bind_compact hlt)

/-- Whether all answers of a group lie in its first `n` instances. -/
def Within (answers : AnswerStore) (group : GroupKey) (n : Nat) : Prop :=
  ∀ key value field rest, answers.get? key = some value →
    FieldKey.split? key = some (field, rest) → field.groupKey = group → field.instanceIndex < n

instance (answers : AnswerStore) (group : GroupKey) (n : Nat) :
    Decidable (answers.Within group n) :=
  decidable_of_iff (∀ entry ∈ answers.toList, ∀ pair ∈ FieldKey.split? entry.1,
      pair.1.groupKey = group → pair.1.instanceIndex < n)
    ⟨fun h key value field rest hget hsplit => h (key, value) (Table.mem_toList_iff.2 hget)
        (field, rest) hsplit,
      fun h entry hentry pair hpair => h entry.1 entry.2 pair.1 pair.2
        (Table.mem_toList_iff.1 hentry) hpair⟩

theorem Within.get?_eq_none {key : String} {field : FieldKey} {rest : String}
    (h : answers.Within group n) (hsplit : FieldKey.split? key = some (field, rest))
    (hgroup : field.groupKey = group) (hn : n ≤ field.instanceIndex) :
    answers.get? key = none := by
  by_contra hsome
  obtain ⟨value, hget⟩ := Option.ne_none_iff_exists'.1 hsome
  have hlt : field.instanceIndex < n := h key value field rest hget hsplit hgroup
  omega

theorem Within.at?_eq_none {field : FieldKey} {rest : String} (h : answers.Within group n)
    (hends : EndsCoordinate rest.toList) (hgroup : field.groupKey = group)
    (hn : n ≤ field.instanceIndex) : answers.at? field rest = none := by
  unfold at?
  split
  · rename_i hfits
    exact h.get?_eq_none (FieldKey.split?_eq_some_iff.2 ⟨rfl, hfits, hends⟩) hgroup hn
  · rfl

/-- The answers that are left when those of an instance are dropped. -/
def dropInstance (answers : AnswerStore) (group : GroupKey) (index : Nat) : AnswerStore :=
  answers.filter fun key _ => !keyInInstance key group index

theorem get?_dropInstance (key : String) :
    (answers.dropInstance group index).get? key =
      if keyInInstance key group index = true then none else answers.get? key := by
  rw [dropInstance, Table.get?_filter]
  cases hin : keyInInstance key group index <;> cases answers.get? key <;> simp [Option.filter]

theorem Within.dropInstance (h : answers.Within group (n + 1)) :
    (answers.dropInstance group n).Within group n := by
  intro key value field rest hget hsplit hgroup
  rw [get?_dropInstance] at hget
  split at hget
  · cases hget
  · rename_i hin
    have hlt : field.instanceIndex < n + 1 := h key value field rest hget hsplit hgroup
    have hne : field.instanceIndex ≠ n := fun heq =>
      hin (keyInInstance_iff.2 ⟨field, rest, hsplit, hgroup, heq⟩)
    omega

/-- Nothing moves where nothing comes after: under either policy the removal of the last instance
drops its answers and does no more. -/
theorem removeInstance_of_within (policy : RemovalPolicy) (h : answers.Within group (index + 1)) :
    answers.removeInstance policy group index = answers.dropInstance group index := by
  refine Table.ext_get? fun key => ?_
  rw [get?_dropInstance]
  by_cases haddr : group.Addresses key
  · obtain ⟨field, rest, hsplit, hgroup⟩ := haddr
    obtain ⟨-, -, hends⟩ := FieldKey.split?_eq_some_iff.1 hsplit
    have hin : keyInInstance key group index = true ↔ field.instanceIndex = index := by
      simp [keyInInstance_iff, hsplit, hgroup]
    simp only [hin]
    cases policy with
    | preserve => exact get?_removeInstance_preserve_of_split? hsplit hgroup
    | compact =>
        rw [get?_removeInstance_compact_of_split? hsplit hgroup]
        by_cases hlt : field.instanceIndex < index
        · rw [if_pos hlt, if_neg (by omega)]
        · have hnext : answers.at? (field.withInstance (field.instanceIndex + 1)) rest = none :=
            h.at?_eq_none hends hgroup (by simp only [FieldKey.withInstance]; omega)
          rw [if_neg hlt, hnext]
          split
          · rfl
          · exact (h.get?_eq_none hsplit hgroup (by omega)).symm
  · have hin : ¬ keyInInstance key group index = true := by
      rw [keyInInstance_iff]
      rintro ⟨field, rest, hsplit, hgroup, -⟩
      exact haddr ⟨field, rest, hsplit, hgroup⟩
    rw [get?_removeInstance_of_not_addresses haddr, if_neg hin]

/-- To remove an instance after the last answer drops nothing and moves nothing. -/
theorem removeInstance_eq_self (policy : RemovalPolicy) (h : answers.Within group index) :
    answers.removeInstance policy group index = answers := by
  have hnext : answers.Within group (index + 1) := by
    intro key value field rest hget hsplit hgroup
    exact Nat.lt_succ_of_lt (h key value field rest hget hsplit hgroup)
  rw [removeInstance_of_within policy hnext]
  refine Table.ext_get? fun key => ?_
  rw [get?_dropInstance]
  split
  · rename_i hin
    obtain ⟨field, rest, hsplit, hgroup, hindex⟩ := keyInInstance_iff.1 hin
    exact (h.get?_eq_none hsplit hgroup (Nat.le_of_eq hindex.symm)).symm
  · rfl

theorem get?_collapse (key : String) (value : AnswerValue) :
    (answers.collapse group).get? key = some value ↔
      answers.get? key = some value ∧ ¬ FormState.AddressesLater [group] key :=
  @FormState.get?_collapse_answers ⟨answers, Table.empty⟩ group key value

/-- What is collapsed need not have its later instances. -/
theorem collapse_dropInstance (hindex : 0 < index) :
    (answers.dropInstance group index).collapse group = answers.collapse group := by
  refine Table.ext_get? fun key => Option.ext fun value => ?_
  rw [get?_collapse, get?_collapse, get?_dropInstance]
  refine and_congr_left fun hlater => ?_
  have hin : ¬ keyInInstance key group index = true := by
    rw [keyInInstance_iff]
    rintro ⟨field, rest, hsplit, hgroup, rfl⟩
    exact hlater ⟨field, rest, hsplit, List.mem_singleton.2 hgroup, hindex⟩
  rw [if_neg hin]

theorem collapse_of_within (h : answers.Within group 1) : answers.collapse group = answers := by
  refine Table.ext_get? fun key => Option.ext fun value => ?_
  rw [get?_collapse, and_iff_left_iff_imp]
  rintro hget ⟨field, rest, hsplit, hgroup, hlater⟩
  have hfirst : field.instanceIndex < 1 :=
    h key value field rest hget hsplit (List.mem_singleton.1 hgroup)
  omega

end AnswerStore

namespace FormState

variable {state : FormState} {policy : RemovalPolicy} {group : GroupKey} {index : Nat}

/-! ### Removals in different groups -/

/-- Takes out an instance of a group if it can be; whether it was, and the state then. -/
def remove (state : FormState) (policy : RemovalPolicy) (group : GroupKey) (index : Nat) :
    Bool × FormState :=
  match state.removeInstance? policy group index with
  | some next => (true, next)
  | none => (false, state)

/-- Whether an instance is there and not the only one. -/
def HasSpare (state : FormState) (group : GroupKey) (index : Nat) : Prop :=
  1 < state.instances.count group ∧ index < state.instances.count group

/-- The state when an instance that is there has been taken out. -/
def afterRemoval (state : FormState) (policy : RemovalPolicy) (group : GroupKey) (index : Nat) :
    FormState :=
  ⟨state.answers.removeInstance policy group index,
    state.instances.insert group (state.instances.count group - 1)⟩

instance (state : FormState) (group : GroupKey) (index : Nat) :
    Decidable (state.HasSpare group index) := inferInstanceAs (Decidable (_ ∧ _))

theorem removeInstance?_eq (state : FormState) (policy : RemovalPolicy) (group : GroupKey)
    (index : Nat) :
    state.removeInstance? policy group index =
      if state.HasSpare group index then some (state.afterRemoval policy group index)
      else none := by
  split
  · rename_i h
    exact removeInstance?_eq_some_iff.2 ⟨h.1, h.2, rfl⟩
  · rename_i h
    rw [Option.eq_none_iff_forall_ne_some]
    intro next hremove
    obtain ⟨hcount, hindex, -⟩ := removeInstance?_eq_some_iff.1 hremove
    exact h ⟨hcount, hindex⟩

theorem remove_eq (state : FormState) (policy : RemovalPolicy) (group : GroupKey) (index : Nat) :
    state.remove policy group index =
      if state.HasSpare group index then (true, state.afterRemoval policy group index)
      else (false, state) := by
  rw [remove, removeInstance?_eq]
  split_ifs <;> rfl

theorem count_afterRemoval_self (h : state.HasSpare group index) :
    (state.afterRemoval policy group index).instances.count group
      = state.instances.count group - 1 :=
  InstanceTable.count_insert_self group (by have := h.1; omega)

theorem count_afterRemoval_of_ne {other : GroupKey} (h : other ≠ group) :
    (state.afterRemoval policy group index).instances.count other = state.instances.count other :=
  InstanceTable.count_insert_of_ne _ h

theorem hasSpare_afterRemoval_of_ne {other : GroupKey} {i : Nat} (h : other ≠ group) :
    (state.afterRemoval policy group index).HasSpare other i ↔ state.HasSpare other i := by
  rw [HasSpare, HasSpare, count_afterRemoval_of_ne h]

theorem afterRemoval_comm (state : FormState) (p q : RemovalPolicy) {a b : GroupKey} (hne : a ≠ b)
    (i j : Nat) :
    (state.afterRemoval p a i).afterRemoval q b j =
      (state.afterRemoval q b j).afterRemoval p a i := by
  have hcounts := Table.insert_comm state.instances hne (state.instances.count a - 1)
    (state.instances.count b - 1)
  unfold afterRemoval
  rw [InstanceTable.count_insert_of_ne _ hne.symm, InstanceTable.count_insert_of_ne _ hne,
    AnswerStore.removeInstance_comm p q hne i j, hcounts]

/-- Removals in different groups give the same replies and end in the same state in either
order. -/
theorem remove_comm (state : FormState) (p q : RemovalPolicy) {a b : GroupKey} (hne : a ≠ b)
    (i j : Nat) :
    (state.remove p a i).1 = ((state.remove q b j).2.remove p a i).1 ∧
    ((state.remove p a i).2.remove q b j).1 = (state.remove q b j).1 ∧
    ((state.remove p a i).2.remove q b j).2 = ((state.remove q b j).2.remove p a i).2 := by
  by_cases ha : state.HasSpare a i <;> by_cases hb : state.HasSpare b j <;>
    simp [remove_eq, ha, hb, hasSpare_afterRemoval_of_ne hne, hasSpare_afterRemoval_of_ne hne.symm,
      afterRemoval_comm state p q hne]

/-! ### Removals in one group -/

/-- Takes instances of a group out one after the other; none if one of them cannot be. -/
def removeAll? (state : FormState) (policy : RemovalPolicy) (group : GroupKey)
    (indices : List Nat) : Option FormState :=
  indices.foldlM (fun state index => state.removeInstance? policy group index) state

theorem removeAll?_cons (indices : List Nat) (h : state.HasSpare group index) :
    state.removeAll? policy group (index :: indices) =
      (state.afterRemoval policy group index).removeAll? policy group indices := by
  rw [removeAll?, List.foldlM_cons, removeInstance?_eq, if_pos h]
  rfl

theorem removeAll?_nil : state.removeAll? policy group [] = some state := rfl

theorem afterRemoval_pair {i j : Nat} (hlt : i < j) :
    (state.afterRemoval .compact group i).afterRemoval .compact group (j - 1) =
      (state.afterRemoval .compact group j).afterRemoval .compact group i := by
  unfold afterRemoval
  rw [AnswerStore.removeInstance_compact_pair hlt]

/-- Under the compact policy the later of two instances can be taken out first or last. -/
theorem removeAll?_pair {i j : Nat} (hcount : 3 ≤ state.instances.count group) (hlt : i < j)
    (hj : j < state.instances.count group) : ∃ last,
      state.removeAll? .compact group [j, i] = some last ∧
      state.removeAll? .compact group [i, j - 1] = some last := by
  have hlater : state.HasSpare group j := ⟨by omega, hj⟩
  have hearlier : state.HasSpare group i := ⟨by omega, by omega⟩
  have hthen : (state.afterRemoval .compact group j).HasSpare group i := by
    rw [HasSpare, count_afterRemoval_self hlater]
    omega
  have hthen' : (state.afterRemoval .compact group i).HasSpare group (j - 1) := by
    rw [HasSpare, count_afterRemoval_self hearlier]
    omega
  refine ⟨(state.afterRemoval .compact group j).afterRemoval .compact group i, ?_, ?_⟩
  · rw [removeAll?_cons _ hlater, removeAll?_cons _ hthen, removeAll?_nil]
  · rw [removeAll?_cons _ hearlier, removeAll?_cons _ hthen', removeAll?_nil,
      afterRemoval_pair hlt]

/-- The instances after the first one, the last of them first. -/
def laterInstances (count : Nat) : List Nat := (List.range' 1 (count - 1)).reverse

theorem laterInstances_succ (n : Nat) :
    laterInstances (n + 2) = (n + 1) :: laterInstances (n + 1) := by
  have hrange : List.range' 1 (n + 1) = List.range' 1 n ++ [n + 1] := by
    rw [List.range'_1_concat, Nat.add_comm 1 n]
  unfold laterInstances
  rw [Nat.add_sub_cancel, show n + 2 - 1 = n + 1 from rfl, hrange, List.reverse_append]
  rfl

/-- Where the answers of a group end with its last instance, taking out its instances from the last
one down to the second leaves what collapsing it leaves. -/
theorem removeAll?_later (policy : RemovalPolicy) (group : GroupKey) (n : Nat) (state : FormState)
    (hcount : state.instances.count group = n + 1) (hwithin : state.answers.Within group (n + 1)) :
    ∃ last, state.removeAll? policy group (laterInstances (n + 1)) = some last ∧
      last.answers = state.answers.collapse group ∧ last.instances.count group = 1 ∧
      ∀ other, other ≠ group → last.instances.count other = state.instances.count other := by
  induction n generalizing state with
  | zero =>
      exact ⟨state, removeAll?_nil, (AnswerStore.collapse_of_within hwithin).symm, hcount,
        fun _ _ => rfl⟩
  | succ n ih =>
      have hspare : state.HasSpare group (n + 1) := ⟨by omega, by omega⟩
      have hnext : (state.afterRemoval policy group (n + 1)).answers =
          state.answers.dropInstance group (n + 1) :=
        AnswerStore.removeInstance_of_within policy hwithin
      have hcount' : (state.afterRemoval policy group (n + 1)).instances.count group = n + 1 := by
        rw [count_afterRemoval_self hspare, hcount, Nat.add_sub_cancel]
      have hwithin' : (state.afterRemoval policy group (n + 1)).answers.Within group (n + 1) :=
        hnext ▸ hwithin.dropInstance
      obtain ⟨last, hrow, hanswers, hone, hothers⟩ := ih _ hcount' hwithin'
      rw [laterInstances_succ, removeAll?_cons _ hspare]
      refine ⟨last, hrow, ?_, hone, ?_⟩
      · rw [hanswers, hnext, AnswerStore.collapse_dropInstance (Nat.succ_pos n)]
      · intro other hother
        rw [hothers other hother, count_afterRemoval_of_ne hother]

/-- **How removals combine.** Removals in two different groups, of whatever instances and under
whatever policies, give the same replies and end in the same state in either order. Under the
compact policy the later of two instances of one group can be taken out first, or after the other
one at the index before. And where the answers of a group end with its last instance, taking out its
instances from the last one down to the second ends with the answers and the counts that
collapsing the group leaves, under either policy. -/
theorem removals_combine (state : FormState) :
    (∀ (p q : RemovalPolicy) (a b : GroupKey) (i j : Nat), a ≠ b →
      (state.remove p a i).1 = ((state.remove q b j).2.remove p a i).1 ∧
      ((state.remove p a i).2.remove q b j).1 = (state.remove q b j).1 ∧
      ((state.remove p a i).2.remove q b j).2 = ((state.remove q b j).2.remove p a i).2) ∧
    (∀ (group : GroupKey) (i j : Nat), 3 ≤ state.instances.count group → i < j →
      j < state.instances.count group → ∃ last,
        state.removeAll? .compact group [j, i] = some last ∧
        state.removeAll? .compact group [i, j - 1] = some last) ∧
    ∀ (policy : RemovalPolicy) (group : GroupKey),
      state.answers.Within group (state.instances.count group) → ∃ last,
        state.removeAll? policy group (laterInstances (state.instances.count group)) = some last ∧
        last.answers = (state.collapse group).answers ∧
        ∀ other, last.instances.count other = (state.collapse group).instances.count other := by
  refine ⟨fun p q a b i j hne => state.remove_comm p q hne i j,
    fun group i j hcount hlt hj => removeAll?_pair hcount hlt hj, ?_⟩
  intro policy group hwithin
  obtain ⟨n, hn⟩ : ∃ n, state.instances.count group = n + 1 :=
    Nat.exists_eq_add_one.2 (Nat.le_max_left _ _)
  rw [hn] at hwithin ⊢
  obtain ⟨last, hrow, hanswers, hone, hothers⟩ :=
    removeAll?_later policy group n state hn hwithin
  refine ⟨last, hrow, hanswers, fun other => ?_⟩
  by_cases hother : other = group
  · have hgone : (state.collapse group).instances.get? group = none := by
      rw [get?_collapse_instances, if_pos rfl]
    rw [hother, hone, InstanceTable.count_of_get?_eq_none hgone]
  · have hkept : (state.collapse group).instances.get? other = state.instances.get? other := by
      rw [get?_collapse_instances, if_neg hother]
    rw [hothers other hother, InstanceTable.count_congr hkept]

/-- Of twelve pups the eleventh and the third leave, in either order, and the answer of the last one
comes two places forward. -/
theorem removals_combine_litter :
    (litter.remove .compact ⟨0, 0, 0⟩ 2).1 =
      ((litter.remove .preserve ⟨0, 0, 1⟩ 0).2.remove .compact ⟨0, 0, 0⟩ 2).1 ∧
    (∃ last, litter.removeAll? .compact ⟨0, 0, 0⟩ [10, 2] = some last ∧
      litter.removeAll? .compact ⟨0, 0, 0⟩ [2, 9] = some last ∧
      last.answers.get? "p0_s0_g0_q0_i9_sub0" = some (.text "Max")) ∧
    ∃ last, litter.removeAll? .preserve ⟨0, 0, 0⟩ (laterInstances 12) = some last ∧
      last.answers = (litter.collapse ⟨0, 0, 0⟩).answers := by
  obtain ⟨hcomm, hpair, hlater⟩ := removals_combine litter
  obtain ⟨hreply, -, -⟩ := hcomm .compact .preserve ⟨0, 0, 0⟩ ⟨0, 0, 1⟩ 2 0 (by decide)
  obtain ⟨last, hlast, hlast'⟩ := hpair ⟨0, 0, 0⟩ 2 10 (by decide) (by decide) (by decide)
  obtain ⟨one, hone, hanswers, -⟩ := hlater .preserve ⟨0, 0, 0⟩ (by decide)
  have hmax : (litter.removeAll? .compact ⟨0, 0, 0⟩ [10, 2]).map
      (·.answers.get? "p0_s0_g0_q0_i9_sub0") = some (some (.text "Max")) := by decide
  rw [hlast] at hmax
  exact ⟨hreply, ⟨last, hlast, hlast', Option.some.inj hmax⟩, one, hone, hanswers⟩

end FormState

end Questionnaire
