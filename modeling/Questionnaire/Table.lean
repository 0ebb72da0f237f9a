/-! # Finite maps in key order

A `Table κ υ` is a list of entries whose keys increase strictly, so two tables with the same
lookups are the same table (`Table.ext_get?`) and the order in which entries were written never
shows. `get?_insert` and `get?_erase` say what writing and erasing do to every lookup. -/

namespace Questionnaire

variable {κ υ : Type} [Ord κ]

/-- A finite map; its entries stand in strictly increasing key order. -/
structure Table (κ υ : Type) [Ord κ] where
  /-- The entries, by key. -/
  toList : List (κ × υ)
  /-- No key stands twice, and none stands after a larger one. -/
  increasing : toList.Pairwise (fun a b => compare a.1 b.1 = .lt)

namespace Table

/-- The table without entries. -/
def empty : Table κ υ := ⟨[], .nil⟩

instance : EmptyCollection (Table κ υ) := ⟨empty⟩

instance : Inhabited (Table κ υ) := ⟨empty⟩

instance [DecidableEq κ] [DecidableEq υ] : DecidableEq (Table κ υ) := fun a b =>
  if h : a.toList = b.toList then
    .isTrue (by cases a; cases b; simp_all)
  else .isFalse (fun e => h (e ▸ rfl))

/-- The value first listed for `key`. -/
def find (key : κ) : List (κ × υ) → Option υ
  | [] => none
  | (k, v) :: rest => if compare key k = .eq then some v else find key rest

/-- Puts an entry at its place in the order, replacing the entry of an equal key. -/
def place (key : κ) (value : υ) : List (κ × υ) → List (κ × υ)
  | [] => [(key, value)]
  | (k, v) :: rest =>
    match compare key k with
    | .lt => (key, value) :: (k, v) :: rest
    | .eq => (key, value) :: rest
    | .gt => (k, v) :: place key value rest

theorem mem_place {key : κ} {value : υ} {entry : κ × υ} {entries : List (κ × υ)}
    (h : entry ∈ place key value entries) : entry = (key, value) ∨ entry ∈ entries := by
  induction entries with
  | nil => simpa [place] using h
  | cons head rest ih =>
    obtain ⟨k, v⟩ := head
    simp only [place] at h
    split at h <;> grind

theorem increasing_place [Std.TransOrd κ] [Std.LawfulEqOrd κ] (key : κ) (value : υ)
    {entries : List (κ × υ)} (h : entries.Pairwise (fun a b => compare a.1 b.1 = .lt)) :
    (place key value entries).Pairwise (fun a b => compare a.1 b.1 = .lt) := by
  induction entries with
  | nil => simp [place]
  | cons head rest ih =>
    obtain ⟨k, v⟩ := head
    obtain ⟨hhead, hrest⟩ := List.pairwise_cons.1 h
    simp only [place]
    split
    · rename_i hlt
      refine List.pairwise_cons.2 ⟨fun e he => ?_, h⟩
      rcases List.mem_cons.1 he with rfl | he
      · exact hlt
      · exact Std.TransCmp.lt_trans hlt (hhead e he)
    · rename_i heq
      have : key = k := Std.LawfulEqCmp.compare_eq_iff_eq.1 heq
      subst this
      exact List.pairwise_cons.2 ⟨hhead, hrest⟩
    · rename_i hgt
      refine List.pairwise_cons.2 ⟨fun e he => ?_, ih hrest⟩
      rcases mem_place he with rfl | he
      · exact Std.OrientedCmp.gt_iff_lt.1 hgt
      · exact hhead e he

/-- The value stored under `key`. -/
def get? (table : Table κ υ) (key : κ) : Option υ := find key table.toList

/-- Whether `key` has an entry. -/
def contains (table : Table κ υ) (key : κ) : Bool := (table.get? key).isSome

/-- Stores `value` under `key`, in place of what stood there. -/
def insert [Std.TransOrd κ] [Std.LawfulEqOrd κ] (table : Table κ υ) (key : κ) (value : υ) :
    Table κ υ :=
  ⟨place key value table.toList, increasing_place key value table.increasing⟩

/-- Drops the entries that fail the test. -/
def filter (keep : κ → υ → Bool) (table : Table κ υ) : Table κ υ :=
  ⟨table.toList.filter (fun e => keep e.1 e.2), table.increasing.filter _⟩

/-- Drops the entry of `key`, if there is one. -/
def erase (table : Table κ υ) (key : κ) : Table κ υ :=
  table.filter (fun k _ => compare key k != .eq)

/-- The table of a list of entries; of entries with one key the last counts. -/
def ofList [Std.TransOrd κ] [Std.LawfulEqOrd κ] (entries : List (κ × υ)) : Table κ υ :=
  entries.foldl (fun table entry => table.insert entry.1 entry.2) empty

/-- The table with the value at a key changed; `blank` stands for one that is not there. -/
def update [Std.TransOrd κ] [Std.LawfulEqOrd κ] (table : Table κ υ) (key : κ) (blank : υ)
    (change : υ → υ) : Table κ υ :=
  table.insert key (change ((table.get? key).getD blank))

/-- The keys, in order. -/
def keys (table : Table κ υ) : List κ := table.toList.map (·.1)

/-- How many entries there are. -/
def size (table : Table κ υ) : Nat := table.toList.length

/-- Whether there is no entry. -/
def isEmpty (table : Table κ υ) : Bool := table.toList.isEmpty

@[simp] theorem toList_empty : (empty : Table κ υ).toList = [] := rfl

@[simp] theorem get?_empty (key : κ) : (empty : Table κ υ).get? key = none := rfl

section Lookup

variable [Std.LawfulEqOrd κ]

/-- Two keys compare as equal only if they are the same key. -/
theorem compare_eq {a b : κ} : compare a b = .eq ↔ a = b :=
  Std.LawfulEqCmp.compare_eq_iff_eq

theorem find_place (key other : κ) (value : υ) (entries : List (κ × υ)) :
    find other (place key value entries)
      = if compare other key = .eq then some value else find other entries := by
  induction entries with
  | nil => simp [place, find]
  | cons head rest ih =>
    obtain ⟨k, v⟩ := head
    simp only [place]
    split
    · simp [find]
    · rename_i heq
      obtain rfl := compare_eq.1 heq
      by_cases h : compare other key = .eq <;> simp [find, h]
    · rename_i hgt
      have hne : key ≠ k := fun e => by subst e; simp at hgt
      simp only [find, ih]
      by_cases h : compare other k = .eq
      · obtain rfl := compare_eq.1 h
        have : compare other key ≠ .eq := fun e => hne (compare_eq.1 e).symm
        simp [this]
      · simp [h]

/-- Writing changes the lookup of its own key only. -/
theorem get?_insert [Std.TransOrd κ] [DecidableEq κ] (table : Table κ υ) (key other : κ)
    (value : υ) :
    (table.insert key value).get? other
      = if other = key then some value else table.get? other := by
  simp [get?, insert, find_place]

theorem find_filter_ne [DecidableEq κ] (key other : κ) (entries : List (κ × υ)) :
    find other (entries.filter (fun e => compare key e.1 != .eq))
      = if other = key then none else find other entries := by
  induction entries with
  | nil => simp [find]
  | cons head rest ih =>
    obtain ⟨k, v⟩ := head
    by_cases hk : compare key k = .eq
    · obtain rfl := compare_eq.1 hk
      rw [List.filter_cons_of_neg (by simp), ih]
      by_cases ho : other = key
      · simp [ho]
      · simp [ho, find]
    · rw [List.filter_cons_of_pos (by simpa using hk)]
      by_cases ho : other = key
      · subst ho
        simp [find, hk, ih]
      · simp [find, ih, ho]

/-- Erasing changes the lookup of its own key only. -/
theorem get?_erase [DecidableEq κ] (table : Table κ υ) (key other : κ) :
    (table.erase key).get? other = if other = key then none else table.get? other :=
  find_filter_ne key other table.toList

omit [Std.LawfulEqOrd κ] in
theorem find_eq_none {key : κ} {entries : List (κ × υ)}
    (h : ∀ e ∈ entries, compare key e.1 ≠ .eq) : find key entries = none := by
  induction entries with
  | nil => rfl
  | cons head rest ih =>
    obtain ⟨k, v⟩ := head
    have hk : compare key k ≠ .eq := h (k, v) (by simp)
    simp only [find, hk, if_false]
    exact ih fun e he => h e (List.mem_cons_of_mem _ he)

theorem find_eq_none_of_before [Std.TransOrd κ] {key : κ} {head : κ × υ}
    {rest : List (κ × υ)} (hlt : compare key head.1 = .lt)
    (h : (head :: rest).Pairwise (fun a b => compare a.1 b.1 = .lt)) :
    find key (head :: rest) = none := by
  refine find_eq_none fun e he heq => ?_
  obtain rfl := compare_eq.1 heq
  rcases List.mem_cons.1 he with rfl | he
  · simp at hlt
  · have := Std.TransCmp.lt_trans hlt ((List.pairwise_cons.1 h).1 e he)
    simp at this

theorem eq_of_find_eq [Std.TransOrd κ] {a b : List (κ × υ)}
    (ha : a.Pairwise (fun x y => compare x.1 y.1 = .lt))
    (hb : b.Pairwise (fun x y => compare x.1 y.1 = .lt))
    (h : ∀ key, find key a = find key b) : a = b := by
  induction a generalizing b with
  | nil =>
    cases b with
    | nil => rfl
    | cons y ys => simpa [find] using h y.1
  | cons x xs ih =>
    cases b with
    | nil => simpa [find] using h x.1
    | cons y ys =>
      have hkey : x.1 = y.1 := by
        cases hxy : compare x.1 y.1 with
        | lt =>
          have := h x.1
          rw [find_eq_none_of_before hxy hb] at this
          simp [find] at this
        | eq => exact compare_eq.1 hxy
        | gt =>
          have := h y.1
          rw [find_eq_none_of_before (Std.OrientedCmp.gt_iff_lt.1 hxy) ha] at this
          simp [find] at this
      have hval : x.2 = y.2 := by simpa [find, hkey] using h x.1
      obtain ⟨hax, hxs⟩ := List.pairwise_cons.1 ha
      obtain ⟨hby, hys⟩ := List.pairwise_cons.1 hb
      have hrest : xs = ys := by
        refine ih hxs hys fun key => ?_
        by_cases hk : compare key x.1 = .eq
        · obtain rfl := compare_eq.1 hk
          rw [find_eq_none fun e he heq => ?_, find_eq_none fun e he heq => ?_]
          · have := hby e he
            rw [← compare_eq.1 heq, hkey] at this
            simp at this
          · have := hax e he
            rw [← compare_eq.1 heq] at this
            simp at this
        · have := h key
          simpa [find, hk, hkey ▸ hk] using this
      rw [hrest, Prod.ext hkey hval]

/-- A table is known by its lookups. -/
theorem ext_get? [Std.TransOrd κ] {a b : Table κ υ} (h : ∀ key, a.get? key = b.get? key) :
    a = b := by
  cases a with
  | mk xs hx =>
    cases b with
    | mk ys hy =>
      have : xs = ys := eq_of_find_eq hx hy h
      subst this
      rfl

end Lookup

end Table

end Questionnaire
