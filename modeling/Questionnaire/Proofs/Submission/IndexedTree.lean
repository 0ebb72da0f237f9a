import Questionnaire.Proofs.Json.Leaves
import Questionnaire.Proofs.Text.Decimal
import Questionnaire.Submission.Indexed

/-! # The tree of a submission by position

A tree is read with `IndexedTree.leaf?`. Entering an answer changes what is read at its own place
and nowhere else (`IndexedTree.leaf?_enter`), and a tree into which answers have been entered holds
exactly these, provided that they agree wherever two have one place
(`IndexedTree.leaf?_foldl_enter_eq_some_iff`). In JSON every answer stands at the path of its place
(`IndexedTree.mem_leaves_toJson`), and no part of the tree is empty
(`IndexedTree.branching_of_full`). -/

namespace Questionnaire

theorem numberedName_injective (part : String) : Function.Injective (numberedName part) := by
  intro m n h
  exact Decimal.print_injective (String.ofList_inj.1 ((String.append_right_inj _).1 h))

namespace IndexedTree

/-- The value under a name in the slot of a group's instance. -/
def leaf? (tree : IndexedTree) (group : GroupKey) (i : Nat) (name : String) : Option Json :=
  (tree.get? group.pageIndex).bind fun sections =>
    (sections.get? group.sectionIndex).bind fun groups =>
      (groups.get? group.groupIndex).bind fun instances =>
        (instances.get? i).bind fun slot => slot.get? name

/-- Entering an answer changes what is read at its own place only. -/
theorem leaf?_enter (tree : IndexedTree) (key : FieldKey) (name : String) (value : Json)
    (group : GroupKey) (i : Nat) (other : String) :
    (tree.enter key name value).leaf? group i other =
      if group = key.groupKey ∧ i = key.instanceIndex ∧ other = name then some value
      else tree.leaf? group i other := by
  let readSlot (slot : IndexedSlot) := slot.get? other
  let readInstances (instances : Table Nat IndexedSlot) := (instances.get? i).bind readSlot
  let readGroups (groups : Table Nat (Table Nat IndexedSlot)) :=
    (groups.get? group.groupIndex).bind readInstances
  let readSections (sections : Table Nat (Table Nat (Table Nat IndexedSlot))) :=
    (sections.get? group.sectionIndex).bind readGroups
  have hinstances (instances : Table Nat IndexedSlot) :
      readInstances (instances.update key.instanceIndex .empty (·.insert name value)) =
        if i = key.instanceIndex ∧ other = name then some value else readInstances instances :=
    Table.bind_get?_update readSlot instances _ _ rfl
      fun slot => Table.get?_insert slot name other value
  have hgroups (groups : Table Nat (Table Nat IndexedSlot)) :
      readGroups (groups.update key.groupIndex .empty
          (·.update key.instanceIndex .empty (·.insert name value))) =
        if group.groupIndex = key.groupIndex ∧ i = key.instanceIndex ∧ other = name then some value
        else readGroups groups :=
    Table.bind_get?_update readInstances groups _ _ rfl hinstances
  have hsections (sections : Table Nat (Table Nat (Table Nat IndexedSlot))) :
      readSections (sections.update key.sectionIndex .empty (·.update key.groupIndex .empty
          (·.update key.instanceIndex .empty (·.insert name value)))) =
        if group.sectionIndex = key.sectionIndex ∧ group.groupIndex = key.groupIndex ∧
          i = key.instanceIndex ∧ other = name then some value
        else readSections sections :=
    Table.bind_get?_update readGroups sections _ _ rfl hgroups
  have hgroup : group = key.groupKey ↔ group.pageIndex = key.pageIndex ∧
      group.sectionIndex = key.sectionIndex ∧ group.groupIndex = key.groupIndex := by
    cases group
    simp only [FieldKey.groupKey, GroupKey.mk.injEq]
  simp only [hgroup, and_assoc]
  exact Table.bind_get?_update readSections tree _ _ rfl hsections

/-- A tree holds the answers that have been entered, if those of one place agree. -/
theorem leaf?_foldl_enter_eq_some_iff {entries : List (FieldKey × String × Json)}
    (hone : ∀ a ∈ entries, ∀ b ∈ entries, a.1.groupKey = b.1.groupKey →
      a.1.instanceIndex = b.1.instanceIndex → a.2.1 = b.2.1 → a.2.2 = b.2.2)
    {group : GroupKey} {i : Nat} {name : String} {value : Json} :
    (entries.foldl (fun (tree : IndexedTree) (key, name, value) => tree.enter key name value)
        Table.empty).leaf? group i name = some value ↔
      ∃ key, (key, name, value) ∈ entries ∧ key.groupKey = group ∧ key.instanceIndex = i := by
  induction entries using List.reverseRecOn generalizing value with
  | nil => simp [leaf?]
  | append_singleton entries entry ih =>
      obtain ⟨key, entered, content⟩ := entry
      rw [List.foldl_append, List.foldl_cons, List.foldl_nil, leaf?_enter]
      have hlast : (key, entered, content) ∈ entries ++ [(key, entered, content)] := by simp
      split
      · rename_i hplace
        obtain ⟨rfl, rfl, rfl⟩ := hplace
        rw [Option.some.injEq]
        constructor
        · rintro rfl
          exact ⟨key, hlast, rfl, rfl⟩
        · rintro ⟨other, hmem, hgroup, hi⟩
          exact hone _ hlast _ hmem hgroup.symm hi.symm rfl
      · rename_i hplace
        rw [ih fun a ha b hb => hone a (List.mem_append_left _ ha) b (List.mem_append_left _ hb)]
        constructor
        · rintro ⟨other, hmem, h⟩
          exact ⟨other, List.mem_append_left _ hmem, h⟩
        · rintro ⟨other, hmem, hgroup, hi⟩
          rcases List.mem_append.1 hmem with hmem | hmem
          · exact ⟨other, hmem, hgroup, hi⟩
          · obtain ⟨rfl, rfl, rfl⟩ : other = key ∧ name = entered ∧ value = content := by
              simpa using hmem
            exact (hplace ⟨hgroup.symm, hi.symm, rfl⟩).elim

/-! ### No part is empty -/

/-- Every page, section, group and instance of the tree has an answer. -/
def Full (tree : IndexedTree) : Prop :=
  tree.Holds (Table.Filled (Table.Filled (Table.Filled fun slot => slot.toList ≠ [])))

theorem full_empty : Full Table.empty := Table.holds_empty _

theorem Full.enter {tree : IndexedTree} (h : tree.Full) (key : FieldKey) (name : String)
    (value : Json) : (tree.enter key name value).Full := by
  have hslot (slot : IndexedSlot) : (slot.insert name value).toList ≠ [] :=
    Table.insert_ne_nil slot name value
  have hinstances {instances : Table Nat IndexedSlot}
      (hheld : instances.Holds fun slot => slot.toList ≠ []) :=
    hheld.filled_update key.instanceIndex (hslot .empty) fun slot _ => hslot slot
  have hgroups {groups : Table Nat (Table Nat IndexedSlot)}
      (hheld : groups.Holds (Table.Filled fun slot => slot.toList ≠ [])) :=
    hheld.filled_update key.groupIndex (hinstances (Table.holds_empty _))
      fun _ hfilled => hinstances hfilled.holds
  have hsections {sections : Table Nat (Table Nat (Table Nat IndexedSlot))}
      (hheld : sections.Holds (Table.Filled (Table.Filled fun slot => slot.toList ≠ []))) :=
    hheld.filled_update key.sectionIndex (hgroups (Table.holds_empty _))
      fun _ hfilled => hgroups hfilled.holds
  exact (Table.Holds.filled_update h key.pageIndex (hsections (Table.holds_empty _))
    fun _ hfilled => hsections hfilled.holds).holds

theorem full_foldl_enter (entries : List (FieldKey × String × Json)) :
    ∀ {tree : IndexedTree}, tree.Full →
      (entries.foldl (fun (tree : IndexedTree) (key, name, value) => tree.enter key name value)
        tree).Full := by
  induction entries with
  | nil => exact fun h => h
  | cons entry entries ih => exact fun h => ih (h.enter entry.1 entry.2.1 entry.2.2)

/-! ### The tree as JSON -/

section Numbered

variable {α : Type} {part : String} {toJson : α → Json} {entries : Table Nat α} {depth : Nat}

theorem mem_numberedEntries_iff {name : String} {json : Json} :
    (name, json) ∈ Json.sortEntries
        (entries.toList.map fun (n, value) => (numberedName part n, toJson value)) ↔
      ∃ n value, entries.get? n = some value ∧ name = numberedName part n ∧
        json = toJson value := by
  rw [Json.mem_sortEntries_iff]
  · simp only [List.mem_map, Prod.exists, Prod.mk.injEq, Table.mem_toList_iff]
    constructor
    · rintro ⟨n, value, hget, rfl, rfl⟩
      exact ⟨n, value, hget, rfl, rfl⟩
    · rintro ⟨n, value, hget, rfl, rfl⟩
      exact ⟨n, value, hget, rfl, rfl⟩
  · -- a name is that of one number only
    intro a ha b hb hab
    simp only [List.mem_map, Prod.exists, Table.mem_toList_iff] at ha hb
    obtain ⟨m, value, hget, rfl⟩ := ha
    obtain ⟨n, value', hget', rfl⟩ := hb
    obtain rfl := numberedName_injective part hab
    rw [hget, Option.some.injEq] at hget'
    rw [hget']

theorem mem_leaves_numbered {path : List String} {leaf : Json} :
    (path, leaf) ∈ Json.leaves (depth + 1) (numbered part toJson entries) ↔
      ∃ n value rest, entries.get? n = some value ∧ path = numberedName part n :: rest ∧
        (rest, leaf) ∈ Json.leaves depth (toJson value) := by
  simp only [numbered, Json.mem_leaves_object, mem_numberedEntries_iff]
  constructor
  · rintro ⟨_, _, rest, ⟨n, value, hget, rfl, rfl⟩, rfl, hleaf⟩
    exact ⟨n, value, rest, hget, rfl, hleaf⟩
  · rintro ⟨n, value, rest, hget, rfl, hleaf⟩
    exact ⟨_, _, rest, ⟨n, value, hget, rfl, rfl⟩, rfl, hleaf⟩

theorem exists_numbered_eq {P : α → Prop} (h : entries.Holds P)
    (hbelow : ∀ value, P value → (toJson value).Branching depth) :
    ∃ named, numbered part toJson entries = .object named ∧ (named.map (·.1)).Nodup ∧
      ∀ entry ∈ named, entry.2.Branching depth := by
  refine ⟨_, rfl, Json.nodup_sortEntries _, ?_⟩
  rintro ⟨name, json⟩ hentry
  obtain ⟨n, value, hget, rfl, rfl⟩ := mem_numberedEntries_iff.1 hentry
  exact hbelow value (h n value hget)

theorem branching_numbered {P : α → Prop} (h : entries.Filled P)
    (hbelow : ∀ value, P value → (toJson value).Branching depth) :
    (numbered part toJson entries).Branching (depth + 1) := by
  obtain ⟨named, heq, hnames, hentries⟩ :
      ∃ named, numbered part toJson entries = .object named ∧ _ :=
    exists_numbered_eq h.holds hbelow
  refine ⟨named, heq, ?_, hnames, hentries⟩
  obtain ⟨⟨n, value⟩, hmem⟩ := List.exists_mem_of_ne_nil _ h.ne_nil
  rw [numbered, Json.object.injEq] at heq
  rw [← heq]
  exact List.ne_nil_of_mem
    (mem_numberedEntries_iff.2 ⟨n, value, Table.mem_toList_iff.1 hmem, rfl, rfl⟩)

end Numbered

/-- The path of a group. -/
def groupPath (group : GroupKey) : List String :=
  [numberedName "page" group.pageIndex, "sections", numberedName "section" group.sectionIndex,
    "groups", numberedName "group" group.groupIndex]

/-- The path of an instance of a group. -/
def instancePath (group : GroupKey) (i : Nat) : List String :=
  groupPath group ++ ["instances", numberedName "instance" i]

/-- The path of a name in the slot of a group's instance. -/
def path (group : GroupKey) (i : Nat) (name : String) : List String :=
  instancePath group i ++ [name]

theorem mem_leaves_slot {slot : IndexedSlot} {path : List String} {leaf : Json} :
    (path, leaf) ∈ Json.leaves 1 (.object slot.toList) ↔
      ∃ name, path = [name] ∧ slot.get? name = some leaf := by
  constructor
  · intro h
    obtain ⟨name, value, rest, hmem, rfl, hleaf⟩ := Json.mem_leaves_object.1 h
    obtain ⟨rfl, rfl⟩ := Prod.mk.inj (List.mem_singleton.1 hleaf)
    exact ⟨name, rfl, Table.mem_toList_iff.1 hmem⟩
  · rintro ⟨name, rfl, hget⟩
    exact Json.mem_leaves_object.2
      ⟨name, leaf, [], Table.mem_toList_iff.2 hget, rfl, List.mem_singleton_self _⟩

/-- In JSON every answer stands at the path of its place. -/
theorem mem_leaves_toJson {tree : IndexedTree} {path : List String} {leaf : Json} :
    (path, leaf) ∈ Json.leaves 8 tree.toJson ↔
      ∃ group i name, tree.leaf? group i name = some leaf ∧
        path = IndexedTree.path group i name := by
  simp only [toJson, mem_leaves_numbered, Json.mem_leaves_field, mem_leaves_slot, leaf?,
    Option.bind_eq_some_iff]
  constructor
  · rintro ⟨p, sections, _, hp, rfl, _, rfl, s, groups, _, hs, rfl, _, rfl, g, instances, _, hg,
      rfl, _, rfl, i, slot, _, hi, rfl, name, rfl, hname⟩
    exact ⟨⟨p, s, g⟩, i, name, ⟨sections, hp, groups, hs, instances, hg, slot, hi, hname⟩, rfl⟩
  · rintro ⟨⟨p, s, g⟩, i, name, ⟨sections, hp, groups, hs, instances, hg, slot, hi, hname⟩, rfl⟩
    exact ⟨p, sections, _, hp, rfl, _, rfl, s, groups, _, hs, rfl, _, rfl, g, instances, _, hg,
      rfl, _, rfl, i, slot, _, hi, rfl, name, rfl, hname⟩

/-- The objects below a full tree have entries down to the answers. -/
theorem branching_of_full {tree : IndexedTree} (h : tree.Full) :
    ∃ entries, tree.toJson = .object entries ∧ (entries.map (·.1)).Nodup ∧
      ∀ entry ∈ entries, entry.2.Branching 7 := by
  refine exists_numbered_eq h fun sections hsections => ?_
  refine (branching_numbered hsections fun groups hgroups => ?_).field "sections"
  refine (branching_numbered hgroups fun instances hinstances => ?_).field "groups"
  refine (branching_numbered hinstances fun slot hslot => ?_).field "instances"
  exact ⟨_, rfl, hslot, Table.nodup_keys slot, fun _ _ => trivial⟩

/-! ### Groups and instances in JSON -/

section Lookup

variable {tree other : IndexedTree} {key key' : GroupKey} {i j : Nat}

/-- The instances of a group. -/
def group? (tree : IndexedTree) (group : GroupKey) : Option (Table Nat IndexedSlot) :=
  (tree.get? group.pageIndex).bind fun sections =>
    (sections.get? group.sectionIndex).bind fun groups => groups.get? group.groupIndex

/-- The slot of an instance. -/
def slot? (tree : IndexedTree) (group : GroupKey) (i : Nat) : Option IndexedSlot :=
  (tree.group? group).bind fun instances => instances.get? i

theorem leaf?_eq_bind_slot? (name : String) :
    tree.leaf? key i name = (tree.slot? key i).bind fun slot => slot.get? name := by
  simp only [leaf?, slot?, group?, Option.bind_assoc]

theorem Full.group?_filled (h : tree.Full) {instances : Table Nat IndexedSlot}
    (hgroup : tree.group? key = some instances) :
    instances.Filled fun slot => slot.toList ≠ [] := by
  simp only [group?, Option.bind_eq_some_iff] at hgroup
  obtain ⟨sections, hsections, groups, hgroups, hinstances⟩ := hgroup
  exact ((h _ _ hsections).holds _ _ hgroups).holds _ _ hinstances

/-- Slots with the same values are the same. -/
theorem slot?_eq_of_leaf?_eq (h : tree.Full) (h' : other.Full)
    (hleaf : ∀ name, tree.leaf? key i name = other.leaf? key' j name) :
    tree.slot? key i = other.slot? key' j := by
  have hne {tree : IndexedTree} (h : tree.Full) {key : GroupKey} {i : Nat} (slot : IndexedSlot)
      (hslot : tree.slot? key i = some slot) : slot.toList ≠ [] := by
    obtain ⟨instances, hinstances, hget⟩ := Option.bind_eq_some_iff.1 hslot
    exact (h.group?_filled hinstances).holds _ _ hget
  refine Table.eq_of_bind_get?_eq (hne h) (hne h') fun name => ?_
  rw [← leaf?_eq_bind_slot?, ← leaf?_eq_bind_slot?]
  exact hleaf name

/-- Groups with the same slots are the same. -/
theorem group?_eq_of_slot?_eq (h : tree.Full) (h' : other.Full)
    (hslot : ∀ i, tree.slot? key i = other.slot? key' i) : tree.group? key = other.group? key' :=
  Table.eq_of_bind_get?_eq (fun _ hgroup => (h.group?_filled hgroup).ne_nil)
    (fun _ hgroup => (h'.group?_filled hgroup).ne_nil) hslot

end Lookup

theorem field?_numbered {α : Type} (part : String) (toJson : α → Json) (entries : Table Nat α)
    (n : Nat) : (numbered part toJson entries).field? (numberedName part n) =
      (entries.get? n).map toJson := by
  ext json
  rw [numbered, Json.field?, Json.lookup_sortEntries, ← Table.mem_toList_iff]
  refine mem_numberedEntries_iff.trans ?_
  rw [Option.map_eq_some_iff]
  constructor
  · rintro ⟨m, value, hget, hname, rfl⟩
    obtain rfl := numberedName_injective part hname
    exact ⟨value, hget, rfl⟩
  · rintro ⟨value, hget, rfl⟩
    exact ⟨n, value, hget, rfl, rfl⟩

/-- The instances of a group as JSON. -/
def groupJson (instances : Table Nat IndexedSlot) : Json :=
  .object [("instances", numbered "instance" (fun slot => .object slot.toList) instances)]

/-- A group stands in JSON at its path. -/
theorem at?_groupPath (tree : IndexedTree) (group : GroupKey) :
    tree.toJson.at? (groupPath group) = (tree.group? group).map groupJson := by
  simp only [toJson, groupPath, group?, Json.at?, field?_numbered, Json.field?_field,
    Option.bind_map, Option.bind_some, Option.map_bind, Function.comp_def, Option.bind_fun_some]
  rfl

/-- An instance stands in JSON at its path. -/
theorem at?_instancePath (tree : IndexedTree) (group : GroupKey) (i : Nat) :
    tree.toJson.at? (instancePath group i) =
      (tree.slot? group i).map fun slot => .object slot.toList := by
  rw [instancePath, Json.at?_append, at?_groupPath, slot?, Option.bind_map, Option.map_bind]
  refine congrArg _ (funext fun instances => ?_)
  simp only [Function.comp_def, groupJson, Json.at?, Json.field?_field, field?_numbered,
    Option.bind_some, Option.bind_fun_some]

/-- An answer stands in JSON at the path of its place. -/
theorem at?_path (tree : IndexedTree) (group : GroupKey) (i : Nat) (name : String) :
    tree.toJson.at? (path group i name) = tree.leaf? group i name := by
  rw [path, Json.at?_append, at?_instancePath, leaf?_eq_bind_slot?, Option.bind_map]
  refine congrArg _ (funext fun slot => ?_)
  simp only [Function.comp_def, Json.at?, Json.field?, Table.lookup_toList, Option.bind_fun_some]

end IndexedTree

end Questionnaire
