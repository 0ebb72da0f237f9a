import Mathlib.Data.List.Nodup
import Questionnaire.Answer.Instances
import Questionnaire.Proofs.Address
import Questionnaire.Proofs.Table

/-! # Removing instances

What the removal of an instance does to every answer. A removal walks the keys of the group, takes
answers out on the way and puts those of later instances back in the end. That comes to the same as
to give every key its new name at once (`AnswerStore.removeInstance_eq_rekey`): no two answers move
to one key (`keyAfterRemoval?_inj`), and none moves to a key from which nothing has been taken
(`AnswerStore.get?_left_of_mem_shifted`).

So an answer of the group moves with its instance (`instanceAfter?`) and keeps the rest of its key,
and every other answer stays where it is (`AnswerStore.get?_removeInstance_of_group`,
`AnswerStore.get?_removeInstance_of_not_addresses`). Under the compact policy the instance `j` that
is left holds what stood at `formerInstance index j` (`AnswerStore.get?_removeInstance_compact`). -/

namespace Questionnaire

/-- Whether a key addresses the group: the field that it starts with is one of the group's. -/
def GroupKey.Addresses (group : GroupKey) (key : String) : Prop :=
  ∃ field rest, FieldKey.split? key = some (field, rest) ∧ field.groupKey = group

instance (group : GroupKey) (key : String) : Decidable (group.Addresses key) :=
  match hsplit : FieldKey.split? key with
  | some (field, rest) => decidable_of_iff (field.groupKey = group)
      ⟨fun h => ⟨field, rest, hsplit, h⟩, fun ⟨_, _, hother, h⟩ => by
        rw [hsplit] at hother
        rw [(Prod.mk.inj (Option.some.inj hother)).1, h]⟩
  | none => .isFalse fun ⟨_, _, hother, _⟩ => by
      rw [hsplit] at hother
      cases hother

theorem GroupKey.addresses_append {group : GroupKey} {field : FieldKey} {rest : String}
    (hfits : field.Fits) (hends : EndsCoordinate rest.toList) :
    group.Addresses (field.text ++ rest) ↔ field.groupKey = group := by
  have hsplit := FieldKey.split?_eq_some_iff.2 ⟨rfl, hfits, hends⟩
  simp [Addresses, hsplit]

theorem GroupKey.not_addresses_append {group : GroupKey} {field : FieldKey} {rest : String}
    (hends : EndsCoordinate rest.toList) (h : field.groupKey ≠ group) :
    ¬ group.Addresses (field.text ++ rest) := by
  rintro ⟨other, tail, hsplit, hother⟩
  obtain ⟨htext, -, htail⟩ := FieldKey.split?_eq_some_iff.1 hsplit
  obtain ⟨rfl, -⟩ := FieldKey.text_append_inj hends htail htext
  exact h hother

theorem GroupKey.contains_iff {group : GroupKey} {field : FieldKey} :
    group.contains field = true ↔ field.groupKey = group := by
  simp [contains]

/-! ### Where instances go -/

/-- Where an instance is after the removal of one; none if it is the one removed. -/
def instanceAfter? (policy : RemovalPolicy) (removed j : Nat) : Option Nat :=
  if j = removed then none
  else if removed < j ∧ policy = .compact then some (j - 1)
  else some j

theorem instanceAfter?_inj {policy : RemovalPolicy} {removed a b i : Nat}
    (ha : instanceAfter? policy removed a = some i)
    (hb : instanceAfter? policy removed b = some i) : a = b := by
  unfold instanceAfter? at ha hb
  grind

/-- Which instance an instance was before the removal of one under the compact policy. -/
def formerInstance (removed j : Nat) : Nat := if j < removed then j else j + 1

theorem instanceAfter?_compact {removed i j : Nat} :
    instanceAfter? .compact removed i = some j ↔ i = formerInstance removed j := by
  unfold instanceAfter? formerInstance
  grind

example : (List.range 3).map (formerInstance 1) = [0, 2, 3] := by decide

/-! ### Where keys go -/

/-- Where the answer at a key of the group stays or moves to when an instance is removed; none if
it is dropped. -/
def fieldAfterRemoval? (policy : RemovalPolicy) (index : Nat) (key : String) (field : FieldKey)
    (rest : String) : Option String :=
  if field.instanceIndex = index then none
  else if index < field.instanceIndex && policy = .compact then
    some ((field.withInstance (field.instanceIndex - 1)).text ++ rest)
  else some key

/-- Where the answer at a key stays or moves to when an instance of a group is removed; none if it
is dropped. -/
def keyAfterRemoval? (policy : RemovalPolicy) (group : GroupKey) (index : Nat) (key : String) :
    Option String :=
  match FieldKey.split? key with
  | some (field, rest) =>
    if group.contains field then fieldAfterRemoval? policy index key field rest else some key
  | none => some key

theorem keyAfterRemoval?_of_split? {policy : RemovalPolicy} {group : GroupKey} {index : Nat}
    {key : String} {field : FieldKey} {rest : String}
    (hsplit : FieldKey.split? key = some (field, rest)) (hgroup : field.groupKey = group) :
    keyAfterRemoval? policy group index key = fieldAfterRemoval? policy index key field rest := by
  simp only [keyAfterRemoval?, hsplit, GroupKey.contains_iff.2 hgroup, if_true]

theorem keyAfterRemoval?_append {policy : RemovalPolicy} {group : GroupKey} {index : Nat}
    {field : FieldKey} {rest : String} (hfits : field.Fits) (hends : EndsCoordinate rest.toList)
    (hgroup : field.groupKey = group) :
    keyAfterRemoval? policy group index (field.text ++ rest) =
      (instanceAfter? policy index field.instanceIndex).map fun i =>
        (field.withInstance i).text ++ rest := by
  have hsplit := FieldKey.split?_eq_some_iff.2 ⟨rfl, hfits, hends⟩
  rw [keyAfterRemoval?_of_split? hsplit hgroup, fieldAfterRemoval?, instanceAfter?]
  by_cases heq : field.instanceIndex = index
  · simp [heq]
  · by_cases hmoves : index < field.instanceIndex ∧ policy = .compact
    · simp [heq, hmoves]
    · simp only [Bool.and_eq_true, decide_eq_true_eq, heq, hmoves, if_false, Option.map_some]
      rfl

theorem keyAfterRemoval?_of_not_addresses {policy : RemovalPolicy} {group : GroupKey}
    {index : Nat} {key : String} (h : ¬ group.Addresses key) :
    keyAfterRemoval? policy group index key = some key := by
  unfold keyAfterRemoval?
  split
  · rename_i field rest hsplit
    have hcontains : ¬ group.contains field = true := fun hc =>
      h ⟨field, rest, hsplit, GroupKey.contains_iff.1 hc⟩
    rw [if_neg hcontains]
  · rfl

/-- The inverse reading of a removal: what is at a key afterwards either has stayed, outside the
group, or has moved there with its instance. -/
theorem keyAfterRemoval?_eq_some {policy : RemovalPolicy} {group : GroupKey} {index : Nat}
    {key target : String} (h : keyAfterRemoval? policy group index key = some target) :
    (¬ group.Addresses key ∧ target = key) ∨ ∃ (field : FieldKey) (rest : String) (i : Nat),
      field.Fits ∧ EndsCoordinate rest.toList ∧ field.groupKey = group ∧
        key = field.text ++ rest ∧ instanceAfter? policy index field.instanceIndex = some i ∧
          target = (field.withInstance i).text ++ rest := by
  by_cases haddr : group.Addresses key
  · obtain ⟨field, rest, hsplit, hgroup⟩ := haddr
    obtain ⟨rfl, hfits, hends⟩ := FieldKey.split?_eq_some_iff.1 hsplit
    rw [keyAfterRemoval?_append hfits hends hgroup, Option.map_eq_some_iff] at h
    obtain ⟨i, hi, rfl⟩ := h
    exact .inr ⟨field, rest, i, hfits, hends, hgroup, rfl, hi, rfl⟩
  · rw [keyAfterRemoval?_of_not_addresses haddr, Option.some.injEq] at h
    exact .inl ⟨haddr, h.symm⟩

theorem FieldKey.fits_withInstance {field : FieldKey} (h : field.Fits) {i : Nat}
    (hi : i < wordLimit) : (field.withInstance i).Fits :=
  fits_iff.2 ⟨(fits_iff.1 h).1, (fits_iff.1 h).2.1, hi⟩

theorem instanceAfter?_le {policy : RemovalPolicy} {removed i j : Nat}
    (h : instanceAfter? policy removed i = some j) : j ≤ i := by
  unfold instanceAfter? at h
  grind

/-- No two answers move to one key. -/
theorem keyAfterRemoval?_inj {policy : RemovalPolicy} {group : GroupKey} {index : Nat}
    {a b target : String} (ha : keyAfterRemoval? policy group index a = some target)
    (hb : keyAfterRemoval? policy group index b = some target) : a = b := by
  have fits {field : FieldKey} {i : Nat} (hfits : field.Fits)
      (hi : instanceAfter? policy index field.instanceIndex = some i) :
      (field.withInstance i).Fits :=
    FieldKey.fits_withInstance hfits
      (Nat.lt_of_le_of_lt (instanceAfter?_le hi) (FieldKey.fits_iff.1 hfits).2.2)
  rcases keyAfterRemoval?_eq_some ha with
      ⟨hna, rfl⟩ | ⟨fa, ra, i, hfa, hra, hga, rfl, hia, rfl⟩ <;>
    rcases keyAfterRemoval?_eq_some hb with ⟨hnb, heq⟩ | ⟨fb, rb, j, hfb, hrb, hgb, rfl, hjb, heq⟩
  · exact heq
  · refine (hna ?_).elim
    rw [heq]
    exact (GroupKey.addresses_append (fits hfb hjb) hrb).2 hgb
  · refine (hnb ?_).elim
    rw [← heq]
    exact (GroupKey.addresses_append (fits hfa hia) hra).2 hga
  · obtain ⟨hfield, rfl⟩ := FieldKey.text_append_inj hra hrb heq
    obtain rfl : i = j := congrArg FieldKey.instanceIndex hfield
    have hinst := instanceAfter?_inj hia hjb
    have : fa = fb := by
      cases fa
      cases fb
      simp_all [FieldKey.withInstance]
    rw [this]

/-! ### Giving keys new names -/

namespace AnswerStore

variable {answers : AnswerStore}

/-- The answers under the keys that they move to. -/
def rekey (answers : AnswerStore) (rename : String → Option String) : AnswerStore :=
  .ofList (answers.toList.filterMap fun (key, answer) => (rename key).map (·, answer))

/-- Renaming keys so that no two meet loses no answer and invents none. -/
theorem get?_rekey_eq_some_iff {rename : String → Option String} {target : String}
    {value : AnswerValue}
    (hinj : ∀ {a b target}, rename a = some target → rename b = some target → a = b) :
    (answers.rekey rename).get? target = some value ↔
      ∃ key, rename key = some target ∧ answers.get? key = some value := by
  have hmem {target : String} {value : AnswerValue} :
      (target, value) ∈ (answers.toList.filterMap fun entry =>
        (rename entry.1).map (·, entry.2)) ↔
      ∃ key, rename key = some target ∧ answers.get? key = some value := by
    simp only [List.mem_filterMap, Prod.exists, Option.map_eq_some_iff, Prod.mk.injEq,
      Table.mem_toList_iff]
    constructor
    · rintro ⟨key, _, hget, _, hrename, rfl, rfl⟩
      exact ⟨key, hrename, hget⟩
    · rintro ⟨key, hrename, hget⟩
      exact ⟨key, value, hget, target, hrename, rfl, rfl⟩
  show (Table.ofList (answers.toList.filterMap fun entry =>
    (rename entry.1).map (·, entry.2))).get? target = some value ↔ _
  rw [Table.get?_ofList_eq_some_iff, hmem]
  rintro ⟨target, value⟩ ha ⟨_, value'⟩ hb rfl
  obtain ⟨key, hrename, hget⟩ := hmem.1 ha
  obtain ⟨key', hrename', hget'⟩ := hmem.1 hb
  rw [hinj hrename hrename', hget', Option.some.injEq] at hget
  exact hget.symm

end AnswerStore

/-! ### The walk over the keys of a group -/

namespace AnswerStore

variable {answers : AnswerStore} {group : GroupKey}

theorem mem_keysInGroup_iff {key : String} {field : FieldKey} {rest : String} :
    (key, field, rest) ∈ answers.keysInGroup group ↔
      answers.get? key ≠ none ∧ FieldKey.split? key = some (field, rest) ∧
        field.groupKey = group := by
  have hthere : (∃ value, (key, value) ∈ answers.toList) ↔ answers.get? key ≠ none := by
    simp only [Table.mem_toList_iff, ← Option.ne_none_iff_exists']
  simp only [keysInGroup, Table.keys, List.mem_filterMap, List.mem_map, Prod.exists,
    exists_and_right, exists_eq_right, ← hthere]
  constructor
  · rintro ⟨other, hget, hentry⟩
    split at hentry
    · rename_i hsplit
      split at hentry
      · rename_i hcontains
        obtain ⟨rfl, rfl, rfl⟩ : other = key ∧ _ = field ∧ _ = rest := by simpa using hentry
        exact ⟨hget, hsplit, GroupKey.contains_iff.1 hcontains⟩
      · cases hentry
    · cases hentry
  · rintro ⟨hget, hsplit, hgroup⟩
    refine ⟨key, hget, ?_⟩
    rw [hsplit]
    exact if_pos (GroupKey.contains_iff.2 hgroup)

/-- No key is walked over twice. -/
theorem nodup_keysInGroup (answers : AnswerStore) (group : GroupKey) :
    ((answers.keysInGroup group).map (·.1)).Nodup := by
  rw [keysInGroup, List.map_filterMap]
  have hsame {key found : String} (h : found ∈ Option.map (·.1)
      (match FieldKey.split? key with
        | some (field, rest) => if group.contains field then some (key, field, rest) else none
        | none => none)) : key = found := by
    split at h
    · split at h
      · exact Option.some.inj h
      · cases h
    · cases h
  refine List.Nodup.filterMap (fun key other found hkey hother => ?_) answers.nodup_keys
  exact (hsame hkey).trans (hsame hother).symm

/-- What is left when some of the keys that are walked over have been dropped. -/
theorem get?_foldl_drop {entries : List (String × FieldKey × String)} {drops : FieldKey → Bool}
    {key : String} {value : AnswerValue} :
    (entries.foldl (fun answers (key, field, _) =>
        if drops field then answers.erase key else answers) answers).get? key = some value ↔
      answers.get? key = some value ∧
        ∀ entry ∈ entries, entry.1 = key → drops entry.2.1 = false := by
  induction entries generalizing answers with
  | nil => simp
  | cons entry entries ih =>
      have hstep : (if drops entry.2.1 then answers.erase entry.1 else answers).get? key =
            some value ↔
          answers.get? key = some value ∧ (entry.1 = key → drops entry.2.1 = false) := by
        by_cases hdrops : drops entry.2.1 = true
        · rw [if_pos hdrops, Table.get?_erase]
          by_cases hkey : key = entry.1
          · simp [hkey, hdrops]
          · simp [hkey, Ne.symm hkey]
        · simp [hdrops]
      rw [List.foldl_cons, ih, List.forall_mem_cons, ← and_assoc]
      exact and_congr_left' hstep

theorem get?_dropFields {drops : FieldKey → Bool} {key : String} {value : AnswerValue} :
    (answers.dropFields group drops).get? key = some value ↔
      answers.get? key = some value ∧ ∀ field rest, FieldKey.split? key = some (field, rest) →
        field.groupKey = group → drops field = false := by
  rw [dropFields, get?_foldl_drop]
  refine and_congr_right fun hget => ?_
  constructor
  · intro hkept field rest hsplit hgroup
    have hthere : answers.get? key ≠ none := by
      rw [hget]
      exact Option.some_ne_none value
    exact hkept (key, field, rest) (mem_keysInGroup_iff.2 ⟨hthere, hsplit, hgroup⟩) rfl
  · rintro hkept ⟨_, field, rest⟩ hentry rfl
    obtain ⟨-, hsplit, hgroup⟩ := mem_keysInGroup_iff.1 hentry
    exact hkept field rest hsplit hgroup

end AnswerStore

namespace Removal

variable {policy : RemovalPolicy} {group : GroupKey} {index : Nat}

/-- Whether a removal takes out the answers of a field of the group. -/
def takes (policy : RemovalPolicy) (index : Nat) (field : FieldKey) : Bool :=
  field.instanceIndex = index || (index < field.instanceIndex && policy = .compact)

/-- What a removal takes out at a key to put it back elsewhere. -/
def shift? (policy : RemovalPolicy) (index : Nat) (answers : AnswerStore) :
    String × FieldKey × String → Option (String × AnswerValue)
  | (key, field, rest) =>
    if index < field.instanceIndex && policy = .compact then
      (answers.get? key).map
        ((field.withInstance (field.instanceIndex - 1)).text ++ rest, ·)
    else none

theorem left_step (removal : Removal) (entry : String × FieldKey × String) :
    (removal.step policy index entry).left =
      if takes policy index entry.2.1 then removal.left.erase entry.1 else removal.left := by
  obtain ⟨key, field, rest⟩ := entry
  by_cases hremoved : field.instanceIndex = index
  · simp [step, takes, hremoved]
  · by_cases hmoves : (index < field.instanceIndex && policy = .compact) = true
    · simp only [step, takes, hremoved, hmoves, if_false, if_true, decide_false, Bool.false_or]
      cases hget : removal.left.get? key with
      | some answer => rfl
      | none => exact (Table.erase_eq_self hget).symm
    · simp [step, takes, hremoved, hmoves]

theorem shifted_step (removal : Removal) (entry : String × FieldKey × String) :
    (removal.step policy index entry).shifted =
      removal.shifted ++ (shift? policy index removal.left entry).toList := by
  obtain ⟨key, field, rest⟩ := entry
  by_cases hremoved : field.instanceIndex = index
  · simp [step, shift?, hremoved]
  · by_cases hmoves : (index < field.instanceIndex && policy = .compact) = true
    · simp only [step, shift?, hremoved, hmoves, if_false, if_true]
      cases removal.left.get? key <;> simp
    · simp [step, shift?, hremoved, hmoves]

/-- A walk leaves what it does not take. -/
theorem left_foldl_step (removal : Removal) (entries : List (String × FieldKey × String)) :
    (entries.foldl (step policy index) removal).left =
      entries.foldl (fun answers (key, field, _) =>
        if takes policy index field then answers.erase key else answers) removal.left :=
  (List.foldl_hom left fun removal entry => (left_step removal entry).symm).symm

/-- What a walk takes out to put it back is what stood at the keys before, as no key comes twice. -/
theorem shifted_foldl_step (removal : Removal) {entries : List (String × FieldKey × String)}
    (hnodup : (entries.map (·.1)).Nodup) :
    (entries.foldl (step policy index) removal).shifted =
      removal.shifted ++ entries.filterMap (shift? policy index removal.left) := by
  induction entries generalizing removal with
  | nil => simp
  | cons entry entries ih =>
      obtain ⟨hfresh, hrest⟩ := List.nodup_cons.1 hnodup
      have hsame : ∀ other ∈ entries,
          shift? policy index (removal.step policy index entry).left other =
            shift? policy index removal.left other := by
        intro other hother
        have hkey : other.1 ≠ entry.1 := by
          intro hsame
          exact hfresh (List.mem_map.2 ⟨other, hother, hsame⟩)
        have hget : (removal.step policy index entry).left.get? other.1 =
            removal.left.get? other.1 := by
          rw [left_step]
          split
          · rw [Table.get?_erase, if_neg hkey]
          · rfl
        simp only [shift?, hget]
      rw [List.foldl_cons, ih _ hrest, List.filterMap_congr hsame, shifted_step, List.append_assoc]
      cases hshift : shift? policy index removal.left entry <;> simp [hshift]

/-- Whether a removal takes out the answer at a key. -/
def Takes (policy : RemovalPolicy) (group : GroupKey) (index : Nat) (key : String) : Prop :=
  ∃ field rest, FieldKey.split? key = some (field, rest) ∧ field.groupKey = group ∧
    takes policy index field = true

theorem keyAfterRemoval?_of_not_takes {key : String} (h : ¬ Takes policy group index key) :
    keyAfterRemoval? policy group index key = some key := by
  by_cases haddr : group.Addresses key
  · obtain ⟨field, rest, hsplit, hgroup⟩ := haddr
    have hstays : takes policy index field = false :=
      Bool.eq_false_iff.2 fun htakes => h ⟨field, rest, hsplit, hgroup, htakes⟩
    simp only [takes, Bool.or_eq_false_iff, decide_eq_false_iff_not] at hstays
    rw [keyAfterRemoval?_of_split? hsplit hgroup, fieldAfterRemoval?, if_neg hstays.1, hstays.2]
    rfl
  · exact keyAfterRemoval?_of_not_addresses haddr

end Removal

namespace AnswerStore

variable {answers : AnswerStore} {policy : RemovalPolicy} {group : GroupKey} {index : Nat}

/-- What a removal takes out to put it back under other keys. -/
def shifted (answers : AnswerStore) (policy : RemovalPolicy) (group : GroupKey) (index : Nat) :
    List (String × AnswerValue) :=
  (answers.keysInGroup group).filterMap (Removal.shift? policy index answers)

theorem removeInstance_eq_foldl :
    answers.removeInstance policy group index =
      (answers.shifted policy group index).foldl (fun answers entry =>
        answers.insert entry.1 entry.2)
        (answers.dropFields group (Removal.takes policy index)) := by
  rw [removeInstance, Removal.left_foldl_step,
    Removal.shifted_foldl_step _ (answers.nodup_keysInGroup group)]
  rfl

theorem get?_left {key : String} {value : AnswerValue} :
    (answers.dropFields group (Removal.takes policy index)).get? key = some value ↔
      answers.get? key = some value ∧ ¬ Removal.Takes policy group index key := by
  rw [get?_dropFields]
  simp [Removal.Takes]

theorem mem_shifted_iff {target : String} {value : AnswerValue} :
    (target, value) ∈ answers.shifted policy group index ↔ ∃ key,
      Removal.Takes policy group index key ∧ keyAfterRemoval? policy group index key = some target ∧
        answers.get? key = some value := by
  simp only [shifted, List.mem_filterMap, Prod.exists, mem_keysInGroup_iff]
  constructor
  · rintro ⟨key, field, rest, ⟨-, hsplit, hgroup⟩, hshift⟩
    rw [Removal.shift?] at hshift
    split at hshift
    · rename_i hmoves
      obtain ⟨answer, hget, hentry⟩ := Option.map_eq_some_iff.1 hshift
      obtain ⟨rfl, rfl⟩ := Prod.mk.inj hentry
      refine ⟨key, ⟨field, rest, hsplit, hgroup, by simp [Removal.takes, hmoves]⟩, ?_, hget⟩
      have hlater : field.instanceIndex ≠ index := by
        simp only [Bool.and_eq_true, decide_eq_true_eq] at hmoves
        omega
      rw [keyAfterRemoval?_of_split? hsplit hgroup, fieldAfterRemoval?, if_neg hlater,
        if_pos hmoves]
    · cases hshift
  · rintro ⟨key, ⟨field, rest, hsplit, hgroup, htakes⟩, hkey, hget⟩
    refine ⟨key, field, rest, ⟨?_, hsplit, hgroup⟩, ?_⟩
    · rw [hget]
      exact Option.some_ne_none value
    · rw [keyAfterRemoval?_of_split? hsplit hgroup, fieldAfterRemoval?] at hkey
      split at hkey
      · cases hkey
      · rename_i hlater
        have hmoves : (index < field.instanceIndex && policy = .compact) = true := by
          simpa [Removal.takes, hlater] using htakes
        rw [if_pos hmoves] at hkey
        rw [Removal.shift?, if_pos hmoves, hget, Option.map_some, Option.some.inj hkey]

/-- No answer is put back at a key at which one has been left. -/
theorem get?_left_of_mem_shifted {target : String} {value : AnswerValue}
    (h : (target, value) ∈ answers.shifted policy group index) :
    (answers.dropFields group (Removal.takes policy index)).get? target = none := by
  obtain ⟨key, htakes, hkey, -⟩ := mem_shifted_iff.1 h
  by_contra hleft
  obtain ⟨other, hother⟩ := Option.ne_none_iff_exists'.1 hleft
  have hstays : ¬ Removal.Takes policy group index target := (get?_left.1 hother).2
  have hsame : key = target :=
    keyAfterRemoval?_inj hkey (Removal.keyAfterRemoval?_of_not_takes hstays)
  exact hstays (hsame ▸ htakes)

/-- **A removal gives every key its new name at once**, though it is a walk: nothing is lost on the
way, and nothing is overwritten when what has been taken out is put back. -/
theorem removeInstance_eq_rekey :
    answers.removeInstance policy group index =
      answers.rekey (keyAfterRemoval? policy group index) := by
  refine Table.ext_get? fun target => Option.ext fun value => ?_
  have hone : ∀ a ∈ answers.shifted policy group index,
      ∀ b ∈ answers.shifted policy group index, a.1 = b.1 → a.2 = b.2 := by
    rintro ⟨target, a⟩ ha ⟨_, b⟩ hb rfl
    obtain ⟨key, -, hkey, hget⟩ := mem_shifted_iff.1 ha
    obtain ⟨other, -, hother, hget'⟩ := mem_shifted_iff.1 hb
    rw [keyAfterRemoval?_inj hkey hother, hget'] at hget
    exact (Option.some.inj hget).symm
  rw [removeInstance_eq_foldl, Table.get?_foldl_insert_eq_some_iff hone,
    get?_rekey_eq_some_iff keyAfterRemoval?_inj, mem_shifted_iff]
  constructor
  · rintro (⟨key, -, hkey, hget⟩ | ⟨-, hleft⟩)
    · exact ⟨key, hkey, hget⟩
    · obtain ⟨hget, hstays⟩ := get?_left.1 hleft
      exact ⟨target, Removal.keyAfterRemoval?_of_not_takes hstays, hget⟩
  · rintro ⟨key, hkey, hget⟩
    by_cases htakes : Removal.Takes policy group index key
    · exact .inl ⟨key, htakes, hkey, hget⟩
    · obtain rfl : key = target :=
        Option.some.inj ((Removal.keyAfterRemoval?_of_not_takes htakes).symm.trans hkey)
      have hleft := get?_left.2 ⟨hget, htakes⟩
      refine .inr ⟨fun entry hentry hsame => ?_, hleft⟩
      rw [← hsame, get?_left_of_mem_shifted hentry] at hleft
      cases hleft

end AnswerStore

/-! ### What the stores hold -/

namespace AnswerStore

variable {answers : AnswerStore}

/-- After a removal an instance of the group holds the answers of the instance that has moved
there. -/
theorem get?_removeInstance_of_group {policy : RemovalPolicy} {index : Nat} {field : FieldKey}
    {rest : String} {value : AnswerValue} (hfits : field.Fits)
    (hends : EndsCoordinate rest.toList) :
    (answers.removeInstance policy field.groupKey index).get? (field.text ++ rest)
        = some value ↔
      ∃ j, j < wordLimit ∧ instanceAfter? policy index j = some field.instanceIndex ∧
        answers.get? ((field.withInstance j).text ++ rest) = some value := by
  rw [removeInstance_eq_rekey, get?_rekey_eq_some_iff keyAfterRemoval?_inj]
  constructor
  · rintro ⟨key, hrename, hget⟩
    rcases keyAfterRemoval?_eq_some hrename with
      ⟨hnot, rfl⟩ | ⟨origin, tail, i, horigin, htail, -, rfl, hi, heq⟩
    · exact (hnot ((GroupKey.addresses_append hfits hends).2 rfl)).elim
    · obtain ⟨rfl, rfl⟩ := FieldKey.text_append_inj hends htail heq
      exact ⟨origin.instanceIndex, (FieldKey.fits_iff.1 horigin).2.2, hi, hget⟩
  · rintro ⟨j, hj, hmoves, hget⟩
    refine ⟨_, ?_, hget⟩
    have hgroup : (field.withInstance j).groupKey = field.groupKey := rfl
    rw [keyAfterRemoval?_append (FieldKey.fits_withInstance hfits hj) hends hgroup]
    exact Option.map_eq_some_iff.2 ⟨_, hmoves, rfl⟩

/-- A removal leaves every answer outside the group where it is. -/
theorem get?_removeInstance_of_not_addresses {policy : RemovalPolicy} {group : GroupKey}
    {index : Nat} {key : String} (h : ¬ group.Addresses key) :
    (answers.removeInstance policy group index).get? key = answers.get? key := by
  ext value
  rw [removeInstance_eq_rekey, get?_rekey_eq_some_iff keyAfterRemoval?_inj]
  constructor
  · rintro ⟨origin, hrename, hget⟩
    rcases keyAfterRemoval?_eq_some hrename with
      ⟨-, rfl⟩ | ⟨field, rest, i, hfits, hends, hgroup, rfl, hi, rfl⟩
    · exact hget
    · refine (h ?_).elim
      have hlt := Nat.lt_of_le_of_lt (instanceAfter?_le hi) (FieldKey.fits_iff.1 hfits).2.2
      exact (GroupKey.addresses_append (FieldKey.fits_withInstance hfits hlt) hends).2 hgroup
  · exact fun hget => ⟨key, keyAfterRemoval?_of_not_addresses h, hget⟩

/-- Under the compact policy every instance that is left reads as its former one. -/
theorem get?_removeInstance_compact {index : Nat} {field : FieldKey} {rest : String}
    (hfits : (field.withInstance (field.instanceIndex + 1)).Fits)
    (hends : EndsCoordinate rest.toList) :
    (answers.removeInstance .compact field.groupKey index).get? (field.text ++ rest) =
      answers.get? ((field.withInstance (formerInstance index field.instanceIndex)).text
        ++ rest) := by
  have hlt : field.instanceIndex + 1 < wordLimit := (FieldKey.fits_iff.1 hfits).2.2
  have hfield : field.Fits := FieldKey.fits_withInstance hfits (by omega)
  have hformer : formerInstance index field.instanceIndex < wordLimit := by
    unfold formerInstance
    split <;> omega
  ext value
  simp only [get?_removeInstance_of_group hfield hends, instanceAfter?_compact]
  constructor
  · rintro ⟨_, -, rfl, hget⟩
    exact hget
  · exact fun hget => ⟨_, hformer, rfl, hget⟩

end AnswerStore

end Questionnaire
