import Mathlib.Data.List.Induction
import Questionnaire.Table

/-! # Lookups in tables

What a lookup finds after a table has been filtered, changed at a key or made from a list. The
entries of a table are exactly what its lookups find (`Table.mem_toList_iff`), and a table made
from a list in which a key has one value only holds exactly the entries of the list
(`Table.get?_ofList_eq_some_iff`). -/

namespace Questionnaire.Table

variable {κ υ : Type} [Ord κ] [Std.LawfulEqOrd κ]

theorem mem_of_find_eq_some {key : κ} {value : υ} {entries : List (κ × υ)}
    (h : find key entries = some value) : (key, value) ∈ entries := by
  induction entries with
  | nil => simp [find] at h
  | cons head rest ih =>
      obtain ⟨k, v⟩ := head
      by_cases hk : compare key k = .eq
      · obtain rfl := compare_eq.1 hk
        simp only [find, Std.ReflOrd.compare_self, if_true, Option.some.injEq] at h
        simp [h]
      · simp only [find, hk, if_false] at h
        exact List.mem_cons_of_mem _ (ih h)

theorem find_eq_some_of_mem {key : κ} {value : υ} {entries : List (κ × υ)}
    (hinc : entries.Pairwise (fun a b => compare a.1 b.1 = .lt)) (h : (key, value) ∈ entries) :
    find key entries = some value := by
  induction entries with
  | nil => cases h
  | cons head rest ih =>
      obtain ⟨k, v⟩ := head
      obtain ⟨hhead, hrest⟩ := List.pairwise_cons.1 hinc
      rcases List.mem_cons.1 h with he | h
      · obtain ⟨rfl, rfl⟩ := Prod.mk.inj he
        simp [find]
      · have hlt := hhead _ h
        have hne : compare key k ≠ .eq := fun e => by
          obtain rfl := compare_eq.1 e
          simp at hlt
        simp only [find, hne, if_false]
        exact ih hrest h

theorem find_filter (keep : κ → υ → Bool) {entries : List (κ × υ)} (key : κ)
    (hinc : entries.Pairwise (fun a b => compare a.1 b.1 = .lt)) :
    find key (entries.filter fun e => keep e.1 e.2) = (find key entries).filter (keep key) := by
  cases hf : find key entries with
  | none =>
      refine find_eq_none fun e he heq => ?_
      obtain rfl := compare_eq.1 heq
      have := find_eq_some_of_mem hinc (List.mem_filter.1 he |>.1)
      simp [hf] at this
  | some value =>
      have hmem := mem_of_find_eq_some hf
      by_cases hk : keep key value = true
      · rw [find_eq_some_of_mem (hinc.filter _) (List.mem_filter.2 ⟨hmem, hk⟩)]
        simp [Option.filter, hk]
      · rw [Option.filter, if_neg hk]
        refine find_eq_none fun e he heq => ?_
        obtain rfl := compare_eq.1 heq
        obtain ⟨he, hke⟩ := List.mem_filter.1 he
        have := find_eq_some_of_mem hinc he
        rw [hf, Option.some.injEq] at this
        exact hk (this ▸ hke)

/-- The entries of a table are what its lookups find. -/
theorem mem_toList_iff {table : Table κ υ} {key : κ} {value : υ} :
    (key, value) ∈ table.toList ↔ table.get? key = some value :=
  ⟨find_eq_some_of_mem table.increasing, mem_of_find_eq_some⟩

/-- No key stands twice in a table. -/
theorem nodup_keys (table : Table κ υ) : table.keys.Nodup := by
  refine List.pairwise_map.2 (table.increasing.imp fun hlt heq => ?_)
  rw [heq] at hlt
  simp at hlt

/-- Filtering drops what fails the test and changes no other lookup. -/
theorem get?_filter (table : Table κ υ) (keep : κ → υ → Bool) (key : κ) :
    (table.filter keep).get? key = (table.get? key).filter (keep key) :=
  find_filter keep key table.increasing

theorem get?_update [Std.TransOrd κ] [DecidableEq κ] (table : Table κ υ) (key other : κ) (blank : υ)
    (change : υ → υ) :
    (table.update key blank change).get? other
      = if other = key then some (change ((table.get? key).getD blank)) else table.get? other :=
  get?_insert table key other _

/-- To drop what is not there changes nothing. -/
theorem erase_eq_self [Std.TransOrd κ] [DecidableEq κ] {table : Table κ υ} {key : κ}
    (h : table.get? key = none) : table.erase key = table := by
  refine ext_get? fun other => ?_
  rw [get?_erase]
  by_cases hother : other = key
  · rw [if_pos hother, hother, h]
  · rw [if_neg hother]

theorem lookup_toList [BEq κ] [LawfulBEq κ] (table : Table κ υ) (key : κ) :
    table.toList.lookup key = table.get? key := by
  have aux : ∀ entries : List (κ × υ), entries.lookup key = find key entries := by
    intro entries
    induction entries with
    | nil => rfl
    | cons head rest ih =>
        obtain ⟨k, v⟩ := head
        by_cases h : key = k
        · subst h
          simp [find]
        · have hc : compare key k ≠ .eq := fun e => h (compare_eq.1 e)
          rw [List.lookup_cons, beq_eq_false_iff_ne.2 h]
          simp only [find, hc, if_false]
          exact ih
  exact aux table.toList

/-! ### Tables of lists -/

variable [Std.TransOrd κ]

/-- Entries at different keys can be written in either order. -/
theorem insert_comm [DecidableEq κ] (table : Table κ υ) {key other : κ} (h : key ≠ other)
    (a b : υ) : (table.insert key a).insert other b = (table.insert other b).insert key a := by
  refine ext_get? fun found => ?_
  simp only [get?_insert]
  by_cases hkey : found = key
  · simp only [hkey, if_true, if_neg h]
  · simp only [if_neg hkey]

/-- Entries of which those at one key agree are found when they have been put into a table, and
beside them what stood at other keys. -/
theorem get?_foldl_insert_eq_some_iff {table : Table κ υ} {entries : List (κ × υ)} {key : κ}
    {value : υ} (hone : ∀ a ∈ entries, ∀ b ∈ entries, a.1 = b.1 → a.2 = b.2) :
    (entries.foldl (fun table entry => table.insert entry.1 entry.2) table).get? key = some value ↔
      (key, value) ∈ entries ∨
        (∀ entry ∈ entries, entry.1 ≠ key) ∧ table.get? key = some value := by
  classical
  induction entries using List.reverseRecOn with
  | nil => simp
  | append_singleton entries entry ih =>
      have hsub : ∀ a ∈ entries, ∀ b ∈ entries, a.1 = b.1 → a.2 = b.2 := fun a ha b hb =>
        hone a (List.mem_append_left _ ha) b (List.mem_append_left _ hb)
      rw [List.foldl_append, List.foldl_cons, List.foldl_nil, get?_insert]
      by_cases hk : key = entry.1
      · subst hk
        rw [if_pos rfl, Option.some.injEq]
        constructor
        · rintro rfl
          simp
        · rintro (hmem | ⟨hnone, -⟩)
          · exact hone entry (by simp) _ hmem rfl
          · exact absurd rfl (hnone entry (by simp))
      · rw [if_neg hk, ih hsub]
        have hne : (key, value) ≠ entry := fun e => hk (congrArg Prod.fst e)
        simp [hne, or_imp, forall_and, Ne.symm hk]

/-- A table made from a list in which every key has one value only holds exactly the entries of
the list. -/
theorem get?_ofList_eq_some_iff {entries : List (κ × υ)} {key : κ} {value : υ}
    (hone : ∀ a ∈ entries, ∀ b ∈ entries, a.1 = b.1 → a.2 = b.2) :
    (ofList entries).get? key = some value ↔ (key, value) ∈ entries := by
  simp [ofList, get?_foldl_insert_eq_some_iff hone]

/-- A table is made of its own entries. -/
theorem ofList_toList (table : Table κ υ) : ofList table.toList = table := by
  have hone : ∀ a ∈ table.toList, ∀ b ∈ table.toList, a.1 = b.1 → a.2 = b.2 := by
    rintro ⟨key, value⟩ ha ⟨_, value'⟩ hb rfl
    have hsame := (mem_toList_iff.1 ha).symm.trans (mem_toList_iff.1 hb)
    exact Option.some.inj hsame
  refine ext_get? fun key => Option.ext fun value => ?_
  rw [get?_ofList_eq_some_iff hone, mem_toList_iff]

/-! ### Tables in tables -/

/-- What a table holds, changed at a key, is seen through any reading of its values that sees
nothing in a new one. -/
theorem bind_get?_update [DecidableEq κ] {β : Type} {new : Option β} {seen : Prop}
    [Decidable seen] (read : υ → Option β) (table : Table κ υ) (key other : κ) {blank : υ}
    {change : υ → υ} (hblank : read blank = none)
    (hchange : ∀ value, read (change value) = if seen then new else read value) :
    ((table.update key blank change).get? other).bind read
      = if other = key ∧ seen then new else (table.get? other).bind read := by
  rw [get?_update]
  by_cases hkey : other = key
  · subst hkey
    rw [if_pos rfl, Option.bind_some, hchange]
    simp only [true_and]
    cases table.get? other with
    | none => rw [Option.getD_none, hblank, Option.bind_none]
    | some value => rw [Option.getD_some, Option.bind_some]
  · rw [if_neg hkey, if_neg fun h => hkey h.1]

/-- Every value in the table has the property. -/
def Holds (P : υ → Prop) (table : Table κ υ) : Prop :=
  ∀ key value, table.get? key = some value → P value

/-- The table is not empty, and every value in it has the property. -/
structure Filled (P : υ → Prop) (table : Table κ υ) : Prop where
  ne_nil : table.toList ≠ []
  holds : table.Holds P

omit [Std.LawfulEqOrd κ] [Std.TransOrd κ] in
theorem holds_empty (P : υ → Prop) : (empty : Table κ υ).Holds P := fun _ _ h => by cases h

theorem Holds.insert {P : υ → Prop} {table : Table κ υ} (h : table.Holds P) (key : κ) {value : υ}
    (hvalue : P value) : (table.insert key value).Holds P := by
  classical
  intro other found hget
  rw [get?_insert] at hget
  split at hget
  · exact Option.some.inj hget ▸ hvalue
  · exact h other found hget

theorem ofList_concat (entries : List (κ × υ)) (entry : κ × υ) :
    ofList (entries ++ [entry]) = (ofList entries).insert entry.1 entry.2 := by
  simp [ofList, List.foldl_append]

/-- What holds of all entries of a list holds of the values in the table made of it. -/
theorem holds_ofList {P : υ → Prop} {entries : List (κ × υ)} (h : ∀ entry ∈ entries, P entry.2) :
    (ofList entries).Holds P := by
  induction entries using List.reverseRecOn with
  | nil => exact holds_empty P
  | append_singleton entries entry ih =>
      obtain ⟨hentries, hentry⟩ := List.forall_mem_append.1 h
      rw [ofList_concat]
      exact (ih hentries).insert entry.1 (hentry entry (List.mem_singleton_self entry))

theorem insert_ne_nil (table : Table κ υ) (key : κ) (value : υ) :
    (table.insert key value).toList ≠ [] := by
  classical
  have hmem : (key, value) ∈ (table.insert key value).toList := by
    rw [mem_toList_iff, get?_insert, if_pos rfl]
  exact List.ne_nil_of_mem hmem

/-- A table that is changed at a key is not empty. -/
theorem Holds.filled_update {P : υ → Prop} {table : Table κ υ} (h : table.Holds P) (key : κ)
    {blank : υ} {change : υ → υ} (hblank : P (change blank))
    (hchange : ∀ value, P value → P (change value)) :
    (table.update key blank change).Filled P := by
  classical
  refine ⟨insert_ne_nil _ _ _, fun other value hget => ?_⟩
  rw [get?_update] at hget
  split at hget
  · cases hfound : table.get? key with
    | none =>
        rw [hfound] at hget
        exact Option.some.inj hget ▸ hblank
    | some found =>
        rw [hfound] at hget
        exact Option.some.inj hget ▸ hchange found (h key found hfound)
  · exact h other value hget

omit [Std.TransOrd κ] in
theorem exists_get?_of_ne_nil {table : Table κ υ} (h : table.toList ≠ []) :
    ∃ key value, table.get? key = some value := by
  obtain ⟨⟨key, value⟩, hmem⟩ := List.exists_mem_of_ne_nil _ h
  exact ⟨key, value, mem_toList_iff.1 hmem⟩

/-- Of tables that are there only if they are not empty, the lookups tell which are there and what
they hold. -/
theorem eq_of_bind_get?_eq {a b : Option (Table κ υ)}
    (ha : ∀ table, a = some table → table.toList ≠ [])
    (hb : ∀ table, b = some table → table.toList ≠ [])
    (h : ∀ key, (a.bind fun table => table.get? key) = b.bind fun table => table.get? key) :
    a = b := by
  cases a with
  | none =>
      cases b with
      | none => rfl
      | some table =>
          obtain ⟨key, value, hget⟩ := exists_get?_of_ne_nil (hb table rfl)
          have := h key
          rw [Option.bind_none, Option.bind_some, hget] at this
          cases this
  | some table =>
      cases b with
      | none =>
          obtain ⟨key, value, hget⟩ := exists_get?_of_ne_nil (ha table rfl)
          have := h key
          rw [Option.bind_none, Option.bind_some, hget] at this
          cases this
      | some other => exact congrArg some (ext_get? h)

end Questionnaire.Table
