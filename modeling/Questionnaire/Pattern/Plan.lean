import Questionnaire.Pattern.Reach
import Questionnaire.Table

/-! # Matching with a way back

A hard pattern is turned into a `Plan`, which says where to come back to a choice and which parts to
match in one go. `Plan.run` tries the choices of a plan in order and comes back to the latest one
when it fails; every return costs one unit of a budget, and a search whose budget is spent
gives up (`Outcome.exhausted`). -/

namespace Questionnaire.Pattern

/-- How a hard pattern is matched. -/
inductive Plan where
  /-- A pattern of fixed size, matched in one go. -/
  | step (node : Node)
  /-- A pattern that only has to match here. -/
  | present (node : Node)
  /-- A pattern matched in one go; the plan finds its end. -/
  | settled (node : Node) (plan : Plan)
  | row (plans : List Plan)
  | choice (plans : List Plan)
  | group (index : Nat) (plan : Plan)
  /-- `guarded` repetitions fail where one more turn would match nothing. -/
  | repetition (plan : Plan) (least : Nat) (most : Option Nat) (greedy guarded : Bool)
  /-- Looks ahead from `back` characters before the place. -/
  | look (negative : Bool) (back : Nat) (plan : Plan)
  | atomic (plan : Plan)
  | reference (group : Nat)
  | entered (group : Nat)
  | conditional (condition whenTrue whenFalse : Plan)

namespace Plan

/-! ### Planning -/

/-- Matches a pattern in one go if no way back into it is needed and it is not hard. -/
def settle (referred : List Nat) (mayReturn : Bool) (node : Node)
    (plan : Bool → Except PatternError Plan) : Except PatternError Plan :=
  if mayReturn || node.isHard referred then plan mayReturn
  else do
    node.checkLimits
    return .settled node (← plan true)

/-- Whether a pattern is matched in one go wherever it stands. -/
def isStep (referred : List Nat) (node : Node) : Bool :=
  node.fixedSize && !node.isHard referred

/-- A lookbehind for a text of the pattern's size. -/
def behind (node : Node) (negative : Bool) (plan : Plan) : Except PatternError Plan :=
  if node.fixedSize then .ok (.look negative node.leastSize plan) else .error .variableLookbehind

/-- Looks back for one of some patterns, each with its plan. -/
def behindEach (negative : Bool) : List Node → List Plan → Except PatternError (List Plan)
  | node :: nodes, plan :: plans => do
    return (← behind node negative plan) :: (← behindEach negative nodes plans)
  | _, _ => .ok []

/-- Looks around for a pattern whose plan is given, and also those of its alternatives if it is
a choice. -/
def around (isBehind negative : Bool) (node : Node) (plan : Plan) (alternatives : List Plan) :
    Except PatternError Plan :=
  if !isBehind then .ok (.look negative 0 plan)
  else match node with
    | .alt nodes =>
      if node.fixedSize then behind node negative plan
      else do
        let plans ← behindEach negative nodes alternatives
        return if negative then .row plans else .choice plans
    | node => behind node negative plan

/-- A pattern whose end does not matter. -/
def withoutEnd : Plan → Plan
  | settled node _ => present node
  | plan => plan

mutual

/-- Plans a pattern; `mayReturn` says whether there must be a way back into it. -/
def ofNode (referred : List Nat) (mayReturn : Bool) : Node → Except PatternError Plan
  | .empty => .ok (.row [])
  | .char set => do
    (Node.char set).checkLimits
    return .step (.char set)
  | .assertion kind => .ok (.step (.assertion kind))
  | .seq nodes =>
    settle referred mayReturn (.seq nodes) fun mayReturn => do
      return .row (← ofRow referred mayReturn true nodes)
  | .alt nodes =>
    settle referred mayReturn (.alt nodes) fun mayReturn => do
      return .choice (← ofNodes referred mayReturn nodes)
  | .group index node =>
    settle referred mayReturn (.group index node) fun mayReturn => do
      return .group index (← ofNode referred mayReturn node)
  | .repetition node least most greedy =>
    settle referred mayReturn (.repetition node least most greedy) fun mayReturn => do
      let mayReturn := mayReturn || !(least == 0 && most == some 1)
      return .repetition (← ofNode referred mayReturn node) least most greedy
        (most.isNone && node.leastSize == 0)
  | .look isBehind negative node => do
    let plan ← ofNode referred false node
    let alternatives ← match node with
      | .alt nodes => ofNodes referred false nodes
      | _ => .ok []
    around isBehind negative node plan.withoutEnd (alternatives.map withoutEnd)
  | .atomic node => do return .atomic (← ofNode referred false node)
  | .reference index => .ok (.reference index)
  | .entered index => .ok (.entered index)
  | .keepOut => .ok (.row [])
  | .searchStart => .ok (.step (.assertion .textStart))
  | .conditional condition whenTrue whenFalse => do
    return .conditional (← ofNode referred mayReturn condition)
      (← ofNode referred mayReturn whenTrue) (← ofNode referred mayReturn whenFalse)

/-- Plans some patterns, each by itself. -/
def ofNodes (referred : List Nat) (mayReturn : Bool) : List Node → Except PatternError (List Plan)
  | [] => .ok []
  | node :: rest => do
    return (← ofNode referred mayReturn node) :: (← ofNodes referred mayReturn rest)

/-- Plans patterns in a row; `leading` says whether all before them are matched in one go. The last
ones are matched in one go if no way back into them is needed and none is hard, or if all have a
fixed size. -/
def ofRow (referred : List Nat) (mayReturn leading : Bool) :
    List Node → Except PatternError (List Plan)
  | [] => .ok []
  | node :: rest =>
    if !mayReturn && !(Node.anyHard referred (node :: rest)) then do
      (Node.seq (node :: rest)).checkLimits
      let plan ← ofNode referred true node
      let plans ← ofRow referred true false rest
      return [.settled (.seq (node :: rest)) (.row (plan :: plans))]
    else if isStep referred node && (leading || (mayReturn && rest.all (isStep referred))) then do
      node.checkLimits
      return .step node :: (← ofRow referred mayReturn leading rest)
    else do
      return (← ofNode referred true node) :: (← ofRow referred mayReturn false rest)

end

/-! ### Running -/

/-- Where a search is: its place in the text, and where groups were entered and left. -/
structure Stand where
  place : Nat
  entries : Table Nat Nat
  exits : Table Nat Nat

/-- What comes of a search; `left` is what is left of its budget. -/
inductive Outcome where
  | matched (left : Nat) (stand : Stand)
  | failed (left : Nat)
  | exhausted

/-- Comes back to a choice if the first way fails. -/
def Outcome.orElse (first : Outcome) (second : Nat → Outcome) : Outcome :=
  match first with
  | failed (left + 1) => second left
  | failed 0 => exhausted
  | outcome => outcome

/-- What a search goes on with. -/
abbrev Next := Nat → Stand → Outcome

/-- Repeats a step from `least` to `most` times. `turns` bounds how often, `count` is how often it
has been done, and `mark` is the place of the last turn that was not needed. -/
def cycle (step : Nat → Stand → Next → Outcome) (least : Nat) (most : Option Nat)
    (greedy guarded : Bool) (next : Next) :
    (turns count : Nat) → (mark : Option Nat) → Nat → Stand → Outcome
  | 0, _, _, left, _ => .failed left
  | turns + 1, count, mark, left, stand =>
    if most = some count then next left stand
    else if guarded && least < count && mark = some stand.place then .failed left
    else
      let mark := if count < least then mark else some stand.place
      let again left :=
        step left stand (cycle step least most greedy guarded next turns (count + 1) mark)
      if count < least then again left
      else if greedy then (again left).orElse fun left => next left stand
      else (next left stand).orElse again

/-- How often a repetition can be tried from a place. -/
def turnLimit (text : Array Char) (place least : Nat) : Option Nat → Nat
  | none => least + (text.size - place) + 2
  | some most => most + 1

/-- The place after the text of a group, if that text comes next. -/
def afterGroup? (text : Array Char) (stand : Stand) (group : Nat) : Option Nat := do
  let first ← stand.entries.get? group
  let last ← stand.exits.get? group
  let found := text.extract first last
  if text.extract stand.place (stand.place + found.size) = found then
    some (stand.place + found.size)
  else none

mutual

/-- Runs a plan on a budget, and goes on with `next` wherever it succeeds. -/
def run (text : Array Char) : Plan → Nat → Stand → Next → Outcome
  | step node, left, stand, next =>
    match node.reach text [stand.place] with
    | [] => .failed left
    | place :: _ => next left { stand with place }
  | present node, left, stand, next =>
    if (node.reach text [stand.place]).isEmpty then .failed left else next left stand
  | settled node plan, left, stand, next =>
    if (node.reach text [stand.place]).isEmpty then .failed left
    else match plan.run text left stand .matched with
      | .matched _ stand => next left stand
      | outcome => outcome
  | row plans, left, stand, next => runRow text plans left stand next
  | choice plans, left, stand, next => runChoice text plans left stand next
  | group index plan, left, stand, next =>
    plan.run text left { stand with entries := stand.entries.insert index stand.place }
      fun left stand => next left { stand with exits := stand.exits.insert index stand.place }
  | repetition plan least most greedy guarded, left, stand, next =>
    cycle (fun left stand next => plan.run text left stand next) least most greedy guarded next
      (turnLimit text stand.place least most) 0 none left stand
  | look false back plan, left, stand, next =>
    if stand.place < back then .failed left
    else plan.run text left { stand with place := stand.place - back }
      fun left inner => next left { inner with place := stand.place }
  | look true back plan, left, stand, next =>
    let inner :=
      if stand.place < back then .failed left
      else plan.run text left { stand with place := stand.place - back } .matched
    match inner with
    | .matched left _ => .failed left
    | outcome => outcome.orElse fun left => next left stand
  | atomic plan, left, stand, next =>
    match plan.run text left stand .matched with
    | .matched left stand => next left stand
    | outcome => outcome
  | reference index, left, stand, next =>
    match afterGroup? text stand index with
    | some place => next left { stand with place }
    | none => .failed left
  | entered index, left, stand, next =>
    if stand.entries.contains index then next left stand else .failed left
  | conditional condition whenTrue whenFalse, left, stand, next =>
    match condition.run text left stand .matched with
    | .matched left stand => whenTrue.run text left stand next
    | outcome => outcome.orElse fun left => whenFalse.run text left stand next

/-- Runs plans in a row. -/
def runRow (text : Array Char) : List Plan → Nat → Stand → Next → Outcome
  | [], left, stand, next => next left stand
  | plan :: rest, left, stand, next =>
    plan.run text left stand fun left stand => runRow text rest left stand next

/-- Runs the first of some plans that leads to a match. -/
def runChoice (text : Array Char) : List Plan → Nat → Stand → Next → Outcome
  | [], left, _, _ => .failed left
  | [plan], left, stand, next => plan.run text left stand next
  | plan :: rest, left, stand, next =>
    (plan.run text left stand next).orElse fun left => runChoice text rest left stand next

end

/-- Runs a plan from a place of the text and, if it fails, from the `later` places after it. -/
def search (text : Array Char) (plan : Plan) : (later place left : Nat) → Outcome
  | 0, place, left => startAt place left
  | later + 1, place, left =>
    (startAt place left).orElse fun left => search text plan later (place + 1) left
where
  /-- Runs the plan from a place; the whole match counts as a group that has been entered. -/
  startAt (place left : Nat) : Outcome :=
    plan.run text left ⟨place, Table.empty.insert 0 place, Table.empty⟩ .matched

/-- How often a search may come back to a choice. -/
def budget : Nat := 1000000

/-- Whether the plan leads to a match somewhere in the text. -/
def foundIn (text : Array Char) (plan : Plan) : Except PatternError Bool :=
  match plan.search text text.size 0 budget with
  | .matched _ _ => .ok true
  | .failed _ => .ok false
  | .exhausted => .error .exhausted

end Plan

end Questionnaire.Pattern
