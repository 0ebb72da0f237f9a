import Questionnaire.Proofs.Answer.Instances

/-! # The effect of a removal

What is left when an instance of a group has been removed: `FormState.removeInstance?_exact` says it
of every count and every answer, under either policy. Nothing is lost but the answers of the
instance removed (`keyAfterRemoval?_eq_none_iff`), however many instances there are and whatever
follows the field in a key. -/

namespace Questionnaire

namespace AnswerStore

/-- The answer at the key that starts with a field and goes on with a text. There is no such key if
a coordinate of the field has more than 64 bits. -/
def at? (answers : AnswerStore) (field : FieldKey) (rest : String) : Option AnswerValue :=
  if field.Fits then answers.get? (field.text ++ rest) else none

end AnswerStore

theorem keyInInstance_iff {key : String} {group : GroupKey} {index : Nat} :
    keyInInstance key group index = true ↔ ∃ field rest,
      FieldKey.split? key = some (field, rest) ∧ field.groupKey = group ∧
        field.instanceIndex = index := by
  simp only [keyInInstance, FieldKey.split?, Option.map_eq_some_iff, Prod.mk.injEq, Prod.exists]
  cases hread : FieldKey.read key.toList with
  | none => simp
  | some pair =>
      obtain ⟨field, rest⟩ := pair
      simp [GroupKey.contains]

theorem keyInInstance_append {group : GroupKey} {index : Nat} {field : FieldKey} {rest : String}
    (hends : EndsCoordinate rest.toList) :
    keyInInstance (field.text ++ rest) group index = true ↔
      field.Fits ∧ field.groupKey = group ∧ field.instanceIndex = index := by
  rw [keyInInstance_iff]
  constructor
  · rintro ⟨other, tail, hsplit, hgroup, hindex⟩
    obtain ⟨htext, hfits, htail⟩ := FieldKey.split?_eq_some_iff.1 hsplit
    obtain ⟨rfl, -⟩ := FieldKey.text_append_inj hends htail htext
    exact ⟨hfits, hgroup, hindex⟩
  · rintro ⟨hfits, hgroup, hindex⟩
    exact ⟨field, rest, FieldKey.split?_eq_some_iff.2 ⟨rfl, hfits, hends⟩, hgroup, hindex⟩

/-- The answers that a removal drops are those of the instance removed. -/
theorem keyAfterRemoval?_eq_none_iff {policy : RemovalPolicy} {group : GroupKey} {index : Nat}
    {key : String} :
    keyAfterRemoval? policy group index key = none ↔ keyInInstance key group index = true := by
  rw [keyInInstance_iff]
  by_cases haddr : group.Addresses key
  · obtain ⟨field, rest, hsplit, hgroup⟩ := haddr
    obtain ⟨rfl, hfits, hends⟩ := FieldKey.split?_eq_some_iff.1 hsplit
    rw [keyAfterRemoval?_append hfits hends hgroup, Option.map_eq_none_iff]
    simp only [hsplit, Option.some.injEq, Prod.mk.injEq, instanceAfter?]
    grind
  · rw [keyAfterRemoval?_of_not_addresses haddr]
    simp only [reduceCtorEq, false_iff]
    rintro ⟨field, rest, hsplit, hgroup, -⟩
    exact haddr ⟨field, rest, hsplit, hgroup⟩

namespace AnswerStore

variable {answers : AnswerStore} {group : GroupKey} {index : Nat} {key : String}
  {field : FieldKey} {rest : String}

/-- Under the compact policy an instance of the group holds what it held before if it stood before
the one removed, and what the next one held otherwise. -/
theorem get?_removeInstance_compact_of_split? (hsplit : FieldKey.split? key = some (field, rest))
    (hgroup : field.groupKey = group) :
    (answers.removeInstance .compact group index).get? key =
      if field.instanceIndex < index then answers.get? key
      else answers.at? (field.withInstance (field.instanceIndex + 1)) rest := by
  obtain ⟨rfl, hfits, hends⟩ := FieldKey.split?_eq_some_iff.1 hsplit
  subst hgroup
  ext value
  simp only [get?_removeInstance_of_group hfits hends, instanceAfter?_compact, formerInstance]
  split
  · constructor
    · rintro ⟨j, -, rfl, hget⟩
      exact hget
    · exact fun hget => ⟨_, (FieldKey.fits_iff.1 hfits).2.2, rfl, hget⟩
  · rw [at?]
    constructor
    · rintro ⟨j, hj, rfl, hget⟩
      rwa [if_pos (FieldKey.fits_withInstance hfits hj)]
    · intro hget
      split at hget
      · rename_i hnext
        exact ⟨_, (FieldKey.fits_iff.1 hnext).2.2, rfl, hget⟩
      · cases hget

/-- Under the other policy only the instance removed loses its answers. -/
theorem get?_removeInstance_preserve_of_split? (hsplit : FieldKey.split? key = some (field, rest))
    (hgroup : field.groupKey = group) :
    (answers.removeInstance .preserve group index).get? key =
      if field.instanceIndex = index then none else answers.get? key := by
  obtain ⟨rfl, hfits, hends⟩ := FieldKey.split?_eq_some_iff.1 hsplit
  subst hgroup
  ext value
  rw [get?_removeInstance_of_group hfits hends]
  simp only [instanceAfter?, reduceCtorEq, and_false, if_false]
  split
  · rename_i hremoved
    constructor
    · rintro ⟨j, -, hj, -⟩
      split at hj
      · cases hj
      · exact absurd ((Option.some.inj hj).trans hremoved) ‹_›
    · intro habsent
      cases habsent
  · rename_i hstays
    constructor
    · rintro ⟨j, -, hj, hget⟩
      split at hj
      · cases hj
      · rwa [Option.some.inj hj] at hget
    · exact fun hget => ⟨_, (FieldKey.fits_iff.1 hfits).2.2, if_neg hstays, hget⟩

end AnswerStore

namespace FormState

/-- **What a removal does.** An instance is removed unless it is not there or is the only one. Then
the count of the group goes down by one and no other does, and of the answers those outside the
group stay. Within the group, under the compact policy an instance from the one removed on holds
what the next one held, and under the other policy the one removed is left blank; all other answers
stay. So every answer, but for those of the instance removed, is found at exactly one key
afterwards, and every answer found then has come from exactly one. -/
theorem removeInstance?_exact (state : FormState) (policy : RemovalPolicy) (group : GroupKey)
    (index : Nat) :
    (state.removeInstance? policy group index = none ↔
      state.instances.count group ≤ 1 ∨ state.instances.count group ≤ index) ∧
    ∀ next, state.removeInstance? policy group index = some next →
      next.instances.count group + 1 = state.instances.count group ∧
      (∀ other, other ≠ group → next.instances.count other = state.instances.count other) ∧
      (∀ key, ¬ group.Addresses key → next.answers.get? key = state.answers.get? key) ∧
      (∀ key field rest, FieldKey.split? key = some (field, rest) → field.groupKey = group →
        next.answers.get? key = match policy with
          | .compact => if field.instanceIndex < index then state.answers.get? key
              else state.answers.at? (field.withInstance (field.instanceIndex + 1)) rest
          | .preserve => if field.instanceIndex = index then none else state.answers.get? key) ∧
      (∀ key value, state.answers.get? key = some value → keyInInstance key group index = false →
        ∃! target, keyAfterRemoval? policy group index key = some target ∧
          next.answers.get? target = some value) ∧
      ∀ target value, next.answers.get? target = some value →
        ∃! key, keyAfterRemoval? policy group index key = some target ∧
          state.answers.get? key = some value := by
  have hremoved := @removeInstance?_eq_some_iff state policy group index
  constructor
  · rw [Option.eq_none_iff_forall_ne_some]
    simp only [ne_eq, hremoved, not_and]
    constructor
    · intro hnone
      by_contra hthere
      exact hnone _ (by omega) (by omega) rfl
    · intro hthere _ _ _
      omega
  intro next hnext
  obtain ⟨hcount, hindex, rfl⟩ := hremoved.1 hnext
  have hcame (target : String) (value : AnswerValue) :
      (state.answers.removeInstance policy group index).get? target = some value ↔
        ∃ key, keyAfterRemoval? policy group index key = some target ∧
          state.answers.get? key = some value := by
    rw [AnswerStore.removeInstance_eq_rekey]
    exact AnswerStore.get?_rekey_eq_some_iff keyAfterRemoval?_inj
  refine ⟨?_, fun other hother => InstanceTable.count_insert_of_ne _ hother,
    fun key hkey => AnswerStore.get?_removeInstance_of_not_addresses hkey, ?_, ?_, ?_⟩
  · rw [InstanceTable.count_insert_self group (by omega)]
    omega
  · intro key field rest hsplit hgroup
    cases policy with
    | compact => exact AnswerStore.get?_removeInstance_compact_of_split? hsplit hgroup
    | preserve => exact AnswerStore.get?_removeInstance_preserve_of_split? hsplit hgroup
  · intro key value hget helsewhere
    have hkept : keyAfterRemoval? policy group index key ≠ none := by
      rw [Ne, keyAfterRemoval?_eq_none_iff, helsewhere]
      exact Bool.false_ne_true
    obtain ⟨target, htarget⟩ := Option.ne_none_iff_exists'.1 hkept
    refine ⟨target, ⟨htarget, (hcame target value).2 ⟨key, htarget, hget⟩⟩, ?_⟩
    rintro other ⟨hother, -⟩
    rw [htarget] at hother
    exact (Option.some.inj hother).symm
  · intro target value hget
    obtain ⟨key, hkey, hformer⟩ := (hcame target value).1 hget
    exact ⟨key, ⟨hkey, hformer⟩, fun other hother => keyAfterRemoval?_inj hother.1 hkey⟩

/-- Twelve pups, of which the third, the eleventh and the last have names. -/
def litter : FormState where
  answers := Table.ofList [("p0_s0_g0_q0_i10", .text "Ida"), ("p0_s0_g0_q0_i11_sub0", .text "Max"),
    ("p0_s0_g0_q0_i2", .text "Rex"), ("p0_s0_g1_q0_i11", .text "Tom"), ("vet", .text "Dr Lee")]
  instances := Table.ofList [(⟨0, 0, 0⟩, 12)]

/-- Without the third pup the eleventh is the tenth. -/
theorem removeInstance?_exact_litter : ∃ next,
    litter.removeInstance? .compact ⟨0, 0, 0⟩ 2 = some next ∧
      next.instances.count ⟨0, 0, 0⟩ + 1 = 12 ∧
      next.answers.get? "p0_s0_g0_q0_i2" = none ∧
      next.answers.get? "p0_s0_g0_q0_i9" = some (.text "Ida") ∧
      next.answers.get? "p0_s0_g0_q0_i10_sub0" = some (.text "Max") ∧
      next.answers.get? "vet" = some (.text "Dr Lee") := by
  obtain ⟨next, hnext⟩ : ∃ next, litter.removeInstance? .compact ⟨0, 0, 0⟩ 2 = some next := ⟨_, rfl⟩
  obtain ⟨hcount, -, hbeside, hgroup, -, -⟩ := (removeInstance?_exact _ _ _ _).2 next hnext
  have hthird := hgroup "p0_s0_g0_q0_i2" ⟨0, 0, 0, 0, 2⟩ "" (by decide) rfl
  have htenth := hgroup "p0_s0_g0_q0_i9" ⟨0, 0, 0, 0, 9⟩ "" (by decide) rfl
  have heleventh := hgroup "p0_s0_g0_q0_i10_sub0" ⟨0, 0, 0, 0, 10⟩ "_sub0" (by decide) rfl
  have hvet := hbeside "vet" (by decide)
  exact ⟨next, hnext, hcount, hthird.trans (by decide), htenth.trans (by decide),
    heleventh.trans (by decide), hvet.trans (by decide)⟩

end FormState

end Questionnaire
