import Mathlib.Data.List.Nodup
import Questionnaire.Json.Value
import Questionnaire.Proofs.Table

/-! # Leaves of JSON values

`Json.leaves` lists what a value holds at a depth, each with the names on the way to it. No two
leaves have one path if the objects on the way have no name twice (`Json.nodup_leaves_object`);
`Json.Branching` says this of a value, and that none of its objects is empty. -/

namespace Questionnaire.Json

/-- What a value holds at a depth, with the names of the entries on the way there. -/
def leaves : Nat → Json → List (List String × Json)
  | 0, value => [([], value)]
  | depth + 1, .object entries => entries.flatMap fun (name, value) =>
    (leaves depth value).map fun (path, leaf) => (name :: path, leaf)
  | _ + 1, _ => []

/-- Down to a depth the value is made of objects that have entries, no two of them under one
name. -/
def Branching : Nat → Json → Prop
  | 0, _ => True
  | depth + 1, value => ∃ entries, value = .object entries ∧ entries ≠ [] ∧
    (entries.map (·.1)).Nodup ∧ ∀ entry ∈ entries, Branching depth entry.2

/-- What a value holds at the end of a path of names. -/
def at? : Json → List String → Option Json
  | value, [] => some value
  | value, name :: path => (value.field? name).bind fun below => below.at? path

variable {depth : Nat} {entries : List (String × Json)} {path : List String} {leaf : Json}

theorem mem_leaves_object :
    (path, leaf) ∈ leaves (depth + 1) (.object entries) ↔ ∃ name value rest,
      (name, value) ∈ entries ∧ path = name :: rest ∧ (rest, leaf) ∈ leaves depth value := by
  simp only [leaves, List.mem_flatMap, List.mem_map, Prod.exists, Prod.mk.injEq]
  constructor
  · rintro ⟨name, value, hentry, rest, _, hleaf, rfl, rfl⟩
    exact ⟨name, value, rest, hentry, rfl, hleaf⟩
  · rintro ⟨name, value, rest, hentry, rfl, hleaf⟩
    exact ⟨name, value, hentry, rest, leaf, hleaf, rfl, rfl⟩

/-- Below different names there are different paths. -/
theorem nodup_leaves_object (hnames : (entries.map (·.1)).Nodup)
    (hbelow : ∀ entry ∈ entries, ((leaves depth entry.2).map (·.1)).Nodup) :
    ((leaves (depth + 1) (.object entries)).map (·.1)).Nodup := by
  have hpaths : (leaves (depth + 1) (.object entries)).map (·.1) = entries.flatMap fun entry =>
      ((leaves depth entry.2).map (·.1)).map (entry.1 :: ·) := by
    simp only [leaves, List.map_flatMap, List.map_map, Function.comp_def]
  rw [hpaths, List.nodup_flatMap]
  constructor
  · intro entry hentry
    exact (hbelow entry hentry).map fun a b hab => (List.cons.inj hab).2
  · refine (List.pairwise_map.1 hnames).imp fun hne => ?_
    intro path ha hb
    obtain ⟨rest, -, rfl⟩ := List.mem_map.1 ha
    obtain ⟨rest', -, heq⟩ := List.mem_map.1 hb
    exact hne (List.cons.inj heq).1.symm

theorem Branching.nodup_leaves {value : Json} (h : value.Branching depth) :
    ((leaves depth value).map (·.1)).Nodup := by
  induction depth generalizing value with
  | zero => exact List.nodup_singleton _
  | succ depth ih =>
      obtain ⟨entries, rfl, -, hnames, hbelow⟩ := h
      exact nodup_leaves_object hnames fun entry hentry => ih (hbelow entry hentry)

/-! ### Objects with one entry -/

theorem mem_leaves_field {name : String} {value : Json} :
    (path, leaf) ∈ leaves (depth + 1) (.object [(name, value)]) ↔
      ∃ rest, path = name :: rest ∧ (rest, leaf) ∈ leaves depth value := by
  rw [mem_leaves_object]
  constructor
  · rintro ⟨_, _, rest, hentry, rfl, hleaf⟩
    obtain ⟨rfl, rfl⟩ := Prod.mk.inj (List.mem_singleton.1 hentry)
    exact ⟨rest, rfl, hleaf⟩
  · rintro ⟨rest, rfl, hleaf⟩
    exact ⟨name, value, rest, List.mem_singleton_self _, rfl, hleaf⟩

theorem Branching.field {value : Json} (h : value.Branching depth) (name : String) :
    (Json.object [(name, value)]).Branching (depth + 1) := by
  refine ⟨_, rfl, List.cons_ne_nil _ _, List.nodup_singleton _, fun entry hentry => ?_⟩
  rw [List.mem_singleton.1 hentry]
  exact h

/-! ### What stands at a path -/

theorem at?_append (value : Json) (first second : List String) :
    value.at? (first ++ second) = (value.at? first).bind fun below => below.at? second := by
  induction first generalizing value with
  | nil => rfl
  | cons name first ih => simp only [List.cons_append, at?, ih, Option.bind_assoc]

theorem field?_field (name : String) (value : Json) :
    (Json.object [(name, value)]).field? name = some value := by
  simp [field?]

/-! ### Sorted entries -/

theorem mem_sortEntries_iff {entry : String × Json}
    (hone : ∀ a ∈ entries, ∀ b ∈ entries, a.1 = b.1 → a.2 = b.2) :
    entry ∈ sortEntries entries ↔ entry ∈ entries :=
  Table.mem_toList_iff.trans (Table.get?_ofList_eq_some_iff hone)

theorem lookup_sortEntries (entries : List (String × Json)) (name : String) :
    (sortEntries entries).lookup name = (Table.ofList entries).get? name :=
  Table.lookup_toList _ name

theorem nodup_sortEntries (entries : List (String × Json)) :
    ((sortEntries entries).map (·.1)).Nodup := Table.nodup_keys _

end Questionnaire.Json
