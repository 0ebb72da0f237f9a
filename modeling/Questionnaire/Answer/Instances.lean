import Questionnaire.Answer.Basic
import Questionnaire.Json.Decode

/-! # Instances of groups

A repeatable group is filled in as often as its count in the `InstanceTable` says, once if the table
does not list it. `FormState.removeInstance?` takes out one instance together with its answers:
under the compact policy the answers of later instances move up, under the other policy they stay
where they are. -/

namespace Questionnaire

/-- What happens to the answers of later instances when one is removed. -/
inductive RemovalPolicy where
  /-- They move up by one instance. -/
  | compact
  /-- They stay, so the last of them are out of reach. -/
  | preserve
  deriving DecidableEq, Repr

/-- Decodes a policy. -/
def RemovalPolicy.decode : Decoder RemovalPolicy :=
  Decoder.variant [("compact", .compact), ("preserve", .preserve)]

/-- How often groups are filled in. -/
abbrev InstanceTable := Table GroupKey Nat

namespace InstanceTable

/-- How often a group is filled in. -/
def count (instances : InstanceTable) (group : GroupKey) : Nat :=
  max 1 ((instances.get? group).getD 1)

/-- The indices of a group's instances. -/
def indices (instances : InstanceTable) (group : GroupKey) : List Nat :=
  List.range (instances.count group)

/-- The new count of a group and the table with it, when an instance is added; counts are 64-bit
words. -/
def add (instances : InstanceTable) (group : GroupKey) :
    Except Overflow (Nat × InstanceTable) := do
  let count ← successor wordLimit (instances.count group)
  return (count, instances.insert group count)

/-- The counts as JSON. -/
def toJson (instances : InstanceTable) : Json :=
  .object (instances.toList.map fun (group, n) => (group.text, .ofNat n))

/-- Decodes a table of counts. -/
def decode : Decoder InstanceTable := Decoder.table GroupKey.ofName Decoder.size

end InstanceTable

/-! ### Removal -/

/-- How far a removal has come: the answers that are left where they are, and those that have been
taken out, with the keys that they move to. -/
structure Removal where
  left : AnswerStore
  shifted : List (String × AnswerValue)

/-- Goes on to a key of the group, which holds an answer of the instance removed, or one of a later
instance, or one that stays. -/
def Removal.step (policy : RemovalPolicy) (index : Nat) (removal : Removal)
    (entry : String × FieldKey × String) : Removal :=
  let (key, field, rest) := entry
  if field.instanceIndex = index then { removal with left := removal.left.erase key }
  else if index < field.instanceIndex && policy = .compact then
    match removal.left.get? key with
    | some answer =>
      let target := (field.withInstance (field.instanceIndex - 1)).text ++ rest
      ⟨removal.left.erase key, removal.shifted ++ [(target, answer)]⟩
    | none => removal
  else removal

namespace AnswerStore

/-- The answers without those of an instance of a group. -/
def removeInstance (answers : AnswerStore) (policy : RemovalPolicy) (group : GroupKey)
    (index : Nat) : AnswerStore :=
  let removal := (answers.keysInGroup group).foldl (Removal.step policy index) ⟨answers, []⟩
  -- the keys are walked in the order of texts, in which instance 10 stands before instance 2, so
  -- nothing is put back before the walk is over
  removal.shifted.foldl (fun answers (key, answer) => answers.insert key answer) removal.left

/-- The answers without those of some fields of a group. -/
def dropFields (answers : AnswerStore) (group : GroupKey) (drops : FieldKey → Bool) : AnswerStore :=
  (answers.keysInGroup group).foldl
    (fun answers (key, field, _) => if drops field then answers.erase key else answers) answers

/-- The answers without those of a group's instances after the first one. -/
def collapse (answers : AnswerStore) (group : GroupKey) : AnswerStore :=
  answers.dropFields group fun field => 0 < field.instanceIndex

end AnswerStore

/-- Answers and how often the groups are filled in. -/
structure FormState where
  answers : AnswerStore
  instances : InstanceTable

namespace FormState

/-- Nothing answered and every group once. -/
def empty : FormState := ⟨Table.empty, Table.empty⟩

/-- Takes out an instance of a group that has more than one, and its answers; none if there is no
such instance. -/
def removeInstance? (state : FormState) (policy : RemovalPolicy) (group : GroupKey) (index : Nat) :
    Option FormState :=
  let count := state.instances.count group
  if count ≤ 1 || count ≤ index then none
  else some ⟨state.answers.removeInstance policy group index,
    state.instances.insert group (count - 1)⟩

/-- Leaves only the first instance of a group. -/
def collapse (state : FormState) (group : GroupKey) : FormState :=
  ⟨state.answers.collapse group, state.instances.erase group⟩

/-- The state as it is saved. -/
def toJson (state : FormState) : Json :=
  .object [("answers", state.answers.toJson), ("instances", state.instances.toJson)]

/-- The fields of a saved state. -/
def fields : List (Decoder.Field FormState) := [
  Decoder.field "answers" AnswerStore.decode fun x state => { state with answers := x },
  Decoder.field "instances" InstanceTable.decode fun x state => { state with instances := x }]

/-- Decodes a saved state. -/
def decode : Decoder FormState := Decoder.record "PreviewState" fields empty

end FormState

end Questionnaire
