import Questionnaire.Pattern.Basic
import Questionnaire.Proofs.Pattern.Class

/-! # A class between the ends of the text

The pattern `^[…]$` matches a text of one character if the set of the class contains it
(`patternMatches_anchored`). The reader is followed step by step: from a reading without flags and
groups each step is known to succeed, so the rest of the program runs on its result. -/

namespace Questionnaire.Pattern

/-- The pattern of a set between the ends of the text. -/
def anchored (set : CharSet) : Node :=
  .seq [.assertion .textStart, .char set, .assertion .textEnd]

namespace Reader

/-! ### Steps of a reader -/

theorem run_bind_ok {α β : Type} {x : Reader α} {f : α → Reader β} {r r' : Reading} {a : α}
    (h : x.run r = .ok (a, r')) : (x >>= f).run r = (f a).run r' := by
  rw [StateT.run_bind, h]
  rfl

theorem run_bind_error {α β : Type} {x : Reader α} {f : α → Reader β} {r : Reading}
    {e : PatternError} (h : x.run r = .error e) : (x >>= f).run r = .error e := by
  rw [StateT.run_bind, h]
  rfl

theorem run_lift {α : Type} {x : Except PatternError α} {a : α} (h : x = .ok a) (r : Reading) :
    (liftM x : Reader α).run r = .ok (a, r) := by
  rw [h]
  rfl

/-- A reading before any flag or group. -/
def plainReading (rest : List Char) (limit : Nat) : Reading :=
  { rest, flags := {}, groups := 0, names := [], numbered := false, groupLimit := limit }

variable {rest : List Char} {limit : Nat}

theorem skip_of_skipGap {text : List Char} (h : skipGap false .outside text = .ok text) :
    skip.run (plainReading text limit) = .ok ((), plainReading text limit) := by
  have hget : (get : Reader Reading).run (plainReading text limit) =
      .ok (plainReading text limit, plainReading text limit) := rfl
  rw [skip, run_bind_ok hget]
  exact run_bind_ok (run_lift h _)

theorem skip_cons {c : Char} (hc : c ≠ '(') :
    skip.run (plainReading (c :: rest) limit) = .ok ((), plainReading (c :: rest) limit) := by
  refine skip_of_skipGap ?_
  rw [skipGap]
  · rfl
  · grind

theorem skip_nil : skip.run (plainReading [] limit) = .ok ((), plainReading [] limit) :=
  skip_of_skipGap (by rw [skipGap]; all_goals simp)

/-! ### Pieces and branches -/

theorem piece_caret (fuel : Nat) :
    (piece (fuel + 2) 0).run (plainReading ('^' :: '[' :: rest) limit) =
      .ok (.assertion .textStart, plainReading ('[' :: rest) limit) := by
  have hatom : (atom (fuel + 1) 0).run (plainReading ('^' :: '[' :: rest) limit) =
      .ok (.assertion .textStart, plainReading ('[' :: rest) limit) := by
    rw [atom, run_bind_ok (skip_cons (by decide))]
    rfl
  rw [piece, run_bind_ok hatom, run_bind_ok (skip_cons (by decide))]
  rfl

theorem piece_dollar (fuel : Nat) :
    (piece (fuel + 2) 0).run (plainReading ['$'] limit) =
      .ok (.assertion .textEnd, plainReading [] limit) := by
  have hatom : (atom (fuel + 1) 0).run (plainReading ['$'] limit) =
      .ok (.assertion .textEnd, plainReading [] limit) := by
    rw [atom, run_bind_ok (skip_cons (by decide))]
    rfl
  rw [piece, run_bind_ok hatom, run_bind_ok skip_nil]
  rfl

theorem run_rest (text : List Char) :
    Reader.rest.run (plainReading text limit) = .ok (text, plainReading text limit) := rfl

theorem branch_nil (fuel : Nat) :
    (branch (fuel + 1) 0).run (plainReading [] limit) = .ok ([], plainReading [] limit) := by
  rw [branch, run_bind_ok (run_rest [])]
  rfl

theorem branch_error {text : List Char} (hne : text ≠ []) {fuel : Nat} {e : PatternError}
    (hpiece : (piece fuel 0).run (plainReading text limit) = .error e) :
    (branch (fuel + 1) 0).run (plainReading text limit) = .error e := by
  have htext : text.isEmpty = false := by simpa using hne
  rw [branch, run_bind_ok (run_rest text), htext]
  exact run_bind_error hpiece

theorem branch_cons {text : List Char} {fuel : Nat} {node : Node}
    (hpiece : (piece fuel 0).run (plainReading text limit) = .ok (node, plainReading rest limit))
    (hlength : rest.length < text.length) (hnode : node.isEmpty = false) :
    (branch (fuel + 1) 0).run (plainReading text limit) =
      ((branch fuel 0).run (plainReading rest limit)).map fun read => (node :: read.1, read.2) := by
  have htext : text.isEmpty = false := by
    cases text with
    | nil => simp at hlength
    | cons _ _ => rfl
  rw [branch, run_bind_ok (run_rest text), htext]
  refine (run_bind_ok hpiece).trans ((run_bind_ok (run_rest rest)).trans ?_)
  rw [if_neg (Nat.ne_of_lt hlength)]
  cases hmore : (branch fuel 0).run (plainReading rest limit) with
  | error e => exact run_bind_error hmore
  | ok read =>
      refine (run_bind_ok hmore).trans ?_
      rw [hnode]
      rfl

/-! ### A class -/

section anchored

variable {text : List Char} {members : List Member} {result : Except PatternError CharSet}
  (hscan : scanClass false text = .ok (members, ['$']))
  (hset : CharSet.ofMembers false members = result.map fun set => (set, []))
include hscan hset

theorem classNode_run :
    classNode.run (plainReading text limit) =
      result.map fun set => (.char set, plainReading ['$'] limit) := by
  have hget : (get : Reader Reading).run (plainReading text limit) =
      .ok (plainReading text limit, plainReading text limit) := rfl
  have hrest : (continueFrom ['$']).run (plainReading text limit) =
      .ok ((), plainReading ['$'] limit) := rfl
  rw [classNode, run_bind_ok hget]
  refine (run_bind_ok (run_lift hscan _)).trans ((run_bind_ok hrest).trans ?_)
  cases result with
  | error e => exact run_bind_error (congrArg (fun x => (liftM x : Reader _).run _) hset)
  | ok set => exact run_bind_ok (run_lift hset _)

theorem piece_bracket (fuel : Nat) :
    (piece (fuel + 2) 0).run (plainReading ('[' :: text) limit) =
      result.map fun set => (.char set, plainReading ['$'] limit) := by
  have hatom : (atom (fuel + 1) 0).run (plainReading ('[' :: text) limit) =
      result.map fun set => (.char set, plainReading ['$'] limit) := by
    rw [atom, run_bind_ok (skip_cons (by decide)), ← classNode_run hscan hset]
    rfl
  cases result with
  | error e =>
      rw [piece]
      exact run_bind_error hatom
  | ok set =>
      rw [piece, run_bind_ok hatom, run_bind_ok (skip_cons (by decide))]
      rfl

theorem branch_anchored (fuel : Nat) :
    (branch (fuel + 5) 0).run (plainReading ('^' :: '[' :: text) limit) =
      result.map fun set =>
        ([.assertion .textStart, .char set, .assertion .textEnd], plainReading [] limit) := by
  have hpiece := @piece_bracket limit text members result hscan hset (fuel + 1)
  have htext : ['$'].length < ('[' :: text).length := by
    cases text with
    | nil =>
        have herror : scanClass false [] = .error .unclosedClass := rfl
        exact nomatch herror.symm.trans hscan
    | cons c text => simp
  rw [branch_cons (piece_caret (fuel + 2)) (Nat.lt_succ_self _) rfl]
  cases result with
  | error e =>
      rw [branch_error (List.cons_ne_nil _ _) hpiece]
      rfl
  | ok set =>
      rw [branch_cons hpiece htext rfl, branch_cons (piece_dollar fuel) (Nat.lt_succ_self _) rfl,
        branch_nil]
      rfl

theorem choice_anchored (fuel : Nat) :
    (choice (fuel + 6) 0).run (plainReading ('^' :: '[' :: text) limit) =
      result.map fun set => (anchored set, plainReading [] limit) := by
  have hbranch := @branch_anchored limit text members result hscan hset fuel
  rw [choice]
  cases result with
  | error e => exact run_bind_error hbranch
  | ok set =>
      refine (run_bind_ok hbranch).trans ((run_bind_ok skip_nil).trans ?_)
      rfl

end anchored

end Reader

theorem Node.ofText_anchored {text : List Char} {members : List Member}
    {result : Except PatternError CharSet}
    (hscan : scanClass false text = .ok (members, ['$']))
    (hset : CharSet.ofMembers false members = result.map fun set => (set, [])) :
    Node.ofText ('^' :: '[' :: text) = result.map anchored := by
  have hchoice := @Reader.choice_anchored ((String.ofList ('^' :: '[' :: text)).utf8ByteSize / 2)
    text members result hscan hset (8 * ('^' :: '[' :: text).length + 10)
  rw [Node.ofText]
  cases result with
  | error e => exact congrArg (fun read => read >>= _) hchoice
  | ok set => exact congrArg (fun read => read >>= _) hchoice

/-! ### Matching -/

theorem ofNode_anchored (set : CharSet) : ofNode (anchored set) = .ok (.plain (anchored set)) := by
  have hweight : (anchored set).weight ≤ Node.weightLimit := by
    have hmin : min set.size Node.rangeLimit ≤ Node.rangeLimit := Nat.min_le_right _ _
    have heq : (anchored set).weight =
        32 + (32 + 8 * (min set.size Node.rangeLimit - 1) + (32 + 0)) := rfl
    simp only [heq, Node.rangeLimit, Node.weightLimit] at hmin ⊢
    omega
  have hlimits : (anchored set).checkLimits = .ok () := by
    have hbounds : (!(anchored set).boundsInOrder) = false := rfl
    rw [Node.checkLimits, hbounds, if_neg Bool.false_ne_true, if_neg (Nat.not_lt.mpr hweight)]
  have hhard : (anchored set).isHard (anchored set).references = false := rfl
  rw [ofNode, hhard, hlimits]
  rfl

theorem foundIn_anchored (set : CharSet) (c : Char) :
    (anchored set).foundIn #[c] = set.contains c := by
  -- of the two places where a match may begin, only the first passes the assertion in front
  have hreach : (anchored set).reach #[c] (List.range 2) =
      (Node.assertion .textEnd).reach #[c] ((Node.char set).reach #[c] [0]) := rfl
  have hstep : (Node.char set).reach #[c] [0] = if set.contains c then [1] else [] := by
    cases h : set.contains c <;> simp [Node.reach, stepOver, h]
  rw [Node.foundIn, show #[c].size + 1 = 2 from rfl, hreach, hstep]
  cases set.contains c <;> rfl

/-- What a pattern matches that is a class between the ends of the text once its shorthands are
written out. -/
theorem patternMatches_anchored {pattern : String} {text : List Char} {members : List Member}
    {result : Except PatternError CharSet}
    (hexpand : expandShorthands pattern.toList = '^' :: '[' :: text)
    (hscan : scanClass false text = .ok (members, ['$']))
    (hset : CharSet.ofMembers false members = result.map fun set => (set, [])) (c : Char) :
    patternMatches pattern (.singleton c) = result.map fun set => set.contains c := by
  have hnode := Node.ofText_anchored hscan hset
  rw [patternMatches, compile, hexpand, hnode]
  cases result with
  | error e => rfl
  | ok set =>
      have hcompile : ((Except.ok set).map anchored >>= ofNode) =
          .ok (.plain (anchored set)) := ofNode_anchored set
      have htext : (String.singleton c).toList.toArray = #[c] := by
        rw [String.toList_singleton]
      rw [hcompile]
      change Except.ok ((anchored set).foundIn (String.singleton c).toList.toArray) = _
      rw [htext, foundIn_anchored]
      rfl

end Questionnaire.Pattern
