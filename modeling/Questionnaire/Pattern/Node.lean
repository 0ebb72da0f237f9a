import Questionnaire.Pattern.CharSet
import Questionnaire.Pattern.Escape

/-! # Patterns as trees

A `Node` is a pattern that has been read. `Node.leastSize` and `Node.fixedSize` say how many
characters it matches, and `Node.isHard` whether matching it needs to come back to a choice: it
looks around, refers to what a group has matched, or fixes a choice once made. -/

namespace Questionnaire.Pattern

/-- A condition on a place of the text. -/
inductive Assertion where
  | textStart
  | textEnd
  | lineStart
  | lineEnd
  | wordStart
  | wordEnd
  deriving DecidableEq, Repr

/-- A pattern. -/
inductive Node where
  | empty
  | char (set : CharSet)
  | assertion (kind : Assertion)
  | seq (nodes : List Node)
  | alt (nodes : List Node)
  | group (index : Nat) (node : Node)
  /-- From `least` to `most` times, without a bound if there is no `most`. -/
  | repetition (node : Node) (least : Nat) (most : Option Nat) (greedy : Bool)
  | look (behind negative : Bool) (node : Node)
  /-- What is matched first is final. -/
  | atomic (node : Node)
  /-- The text of a group once more. -/
  | reference (group : Nat)
  /-- Whether a group has been entered. -/
  | entered (group : Nat)
  /-- A mark that leaves out what comes before it from the match. -/
  | keepOut
  /-- The place where the search began. -/
  | searchStart
  | conditional (condition whenTrue whenFalse : Node)

namespace Node

/-- Whether this is the empty pattern. -/
def isEmpty : Node → Bool
  | empty => true
  | _ => false

/-- Whether the pattern may be repeated. -/
def isRepeatable : Node → Bool
  | empty | assertion _ | look .. => false
  | _ => true

/-- The pattern of some patterns in a row. -/
def ofSeq : List Node → Node
  | [] => empty
  | [node] => node
  | nodes => seq nodes

/-! ### Sizes -/

mutual

/-- A number of characters that the pattern needs at least. -/
def leastSize : Node → Nat
  | char _ => 1
  | seq nodes => totalSize nodes
  | alt nodes => smallestSize nodes
  | group _ node | atomic node => node.leastSize
  | repetition node least _ _ => node.leastSize * least
  | conditional condition whenTrue whenFalse =>
    condition.leastSize + min whenTrue.leastSize whenFalse.leastSize
  | empty | assertion _ | look .. | reference _ | entered _ | keepOut | searchStart => 0

/-- The characters that patterns in a row need at least. -/
def totalSize : List Node → Nat
  | [] => 0
  | node :: rest => node.leastSize + totalSize rest

/-- The characters that one of some patterns needs at least. -/
def smallestSize : List Node → Nat
  | [] => 0
  | [node] => node.leastSize
  | node :: rest => min node.leastSize (smallestSize rest)

end

mutual

/-- Whether the pattern is known to match texts of one length only. -/
def fixedSize : Node → Bool
  | seq nodes => allFixed nodes
  | alt [] => true
  | alt (node :: rest) => node.fixedSize && allFixedAt node.leastSize rest
  | group _ node | atomic node => node.fixedSize
  | repetition node least most _ => node.fixedSize && most == some least
  | reference _ => false
  | conditional condition whenTrue whenFalse =>
    condition.fixedSize && whenTrue.fixedSize && whenFalse.fixedSize
      && condition.leastSize + whenTrue.leastSize == whenFalse.leastSize
  | empty | char _ | assertion _ | look .. | entered _ | keepOut | searchStart => true

/-- Whether all of some patterns have a fixed size. -/
def allFixed : List Node → Bool
  | [] => true
  | node :: rest => node.fixedSize && allFixed rest

/-- Whether all of some patterns have the same fixed size. -/
def allFixedAt (size : Nat) : List Node → Bool
  | [] => true
  | node :: rest => node.fixedSize && node.leastSize == size && allFixedAt size rest

end

/-! ### Hard patterns -/

mutual

/-- The groups that the pattern refers to. -/
def references : Node → List Nat
  | reference index | entered index => [index]
  | seq nodes | alt nodes => allReferences nodes
  | group _ node | atomic node | repetition node .. | look _ _ node => node.references
  | conditional condition whenTrue whenFalse =>
    condition.references ++ whenTrue.references ++ whenFalse.references
  | empty | char _ | assertion _ | keepOut | searchStart => []

/-- The groups that some patterns refer to. -/
def allReferences : List Node → List Nat
  | [] => []
  | node :: rest => node.references ++ allReferences rest

end

mutual

/-- Whether matching needs to come back to earlier choices; `referred` lists the groups that
are referred to. -/
def isHard (referred : List Nat) : Node → Bool
  | assertion .wordStart | assertion .wordEnd => true
  | seq nodes | alt nodes => anyHard referred nodes
  | group index node => node.isHard referred || referred.contains index
  | repetition node .. => node.isHard referred
  | look .. | atomic _ | reference _ | entered _ | keepOut | searchStart | conditional .. => true
  | empty | char _ | assertion _ => false

/-- Whether one of some patterns is hard. -/
def anyHard (referred : List Nat) : List Node → Bool
  | [] => false
  | node :: rest => node.isHard referred || anyHard referred rest

end

/-! ### Limits -/

/-- The largest bound of a repetition. -/
def boundLimit : Nat := 4294967295

/-- The largest size of a pattern, in the units of `weight`. -/
def weightLimit : Nat := 10485760

/-- The largest number of ranges that a set can be written with: half of all code points. -/
def rangeLimit : Nat := 557056

mutual

/-- A measure of the machine that matches the pattern. -/
def weight : Node → Nat
  | empty | assertion _ => 32
  | char set => 32 + 8 * (min set.size rangeLimit - 1)
  | seq nodes => totalWeight nodes
  | alt nodes => 32 + totalWeight nodes
  | group _ node => 64 + node.weight
  | repetition node least most _ =>
    match most with
    | none => 32 + node.weight * max 1 least
    | some most => node.weight * most + 32 * (most - least)
  | _ => 0

/-- The weight of patterns in a row. -/
def totalWeight : List Node → Nat
  | [] => 0
  | node :: rest => node.weight + totalWeight rest

end

mutual

/-- Whether the bounds of every repetition are in order and not too large. -/
def boundsInOrder : Node → Bool
  | seq nodes | alt nodes => allBoundsInOrder nodes
  | group _ node | atomic node | look _ _ node => node.boundsInOrder
  | repetition node least most _ =>
    node.boundsInOrder && least ≤ boundLimit
      && (match most with
        | none => true
        | some most => least ≤ most && most ≤ boundLimit)
  | conditional condition whenTrue whenFalse =>
    condition.boundsInOrder && whenTrue.boundsInOrder && whenFalse.boundsInOrder
  | _ => true

/-- Whether the bounds of every repetition of some patterns are in order. -/
def allBoundsInOrder : List Node → Bool
  | [] => true
  | node :: rest => node.boundsInOrder && allBoundsInOrder rest

end

/-- Refuses a pattern that is not hard if its bounds are wrong or it is too large. -/
def checkLimits (node : Node) : Except PatternError Unit :=
  if !node.boundsInOrder then .error .badBounds
  else if weightLimit < node.weight then .error .tooLarge
  else .ok ()

end Node

end Questionnaire.Pattern
