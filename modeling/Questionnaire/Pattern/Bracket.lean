import Questionnaire.Pattern.CharSet
import Questionnaire.Pattern.Escape
import Questionnaire.Pattern.Property

/-! # Bracketed classes

A class in brackets lists characters, ranges, named sets and nested classes, and joins such lists
by `&&`, `--` and `~~`. `scanClass` finds where the class ends and settles the escapes, and
`CharSet.ofMembers` reads the set that the members describe.

A hyphen is a range sign only between two characters; in front, at the end and after a range it
stands for itself. A closing bracket in front stands for itself as well. -/

namespace Questionnaire.Pattern

/-- A character of a class as it is written, or what an escape stands for. -/
inductive Member where
  | plain (c : Char)
  | escaped (c : Char)
  | set (s : CharSet)

/-! ### Where a class ends -/

/-- The escapes that stand for their letter inside a class though not outside. -/
def isClassLetter (c : Char) : Bool :=
  c = 'k' || c = 'A' || c = 'z' || c = 'B' || c = 'K' || c = 'G'

/-- The members that are written as some text. -/
def plainMembers (text : String) : List Member := text.toList.map .plain

/-- What an escaped character stands for inside a class. -/
def classEscape (ignoreCase : Bool) (c : Char) (rest : List Char) :
    Except PatternError (List Member × List Char) :=
  match codeDigits? c with
  | some count => do
    let (d, rest) ← readCode count rest
    return ([.escaped d], rest)
  | none =>
    if '0' ≤ c && c ≤ '9' then .error .unclosedClass
    else if c = 'p' || c = 'P' then do
      let (set, rest) ← readProperty ignoreCase (c = 'P') rest
      return ([.set set], rest)
    else if c = 'S' then .ok ([.set (.complement .blanks)], rest)
    else if c = 'h' then .ok (plainMembers "[0-9A-Fa-f]", rest)
    else if c = 'H' then .ok (plainMembers "[^0-9A-Fa-f]", rest)
    else if isClassLetter c then .ok ([.escaped c], rest)
    else do return ([.escaped (← escapedChar c)], rest)

/-- The members of a class from inside `nesting` brackets to the bracket that closes the last of
them, and the text after it. `fuel` bounds the length of the text. -/
def scanMembers (ignoreCase : Bool) : (fuel nesting : Nat) → List Char →
    Except PatternError (List Member × List Char)
  | 0, _, _ => .error .unclosedClass
  | _ + 1, _, [] => .error .unclosedClass
  | _ + 1, _, ['\\'] => .error .trailingBackslash
  | fuel + 1, nesting, '\\' :: c :: rest => do
    let (members, rest) ← classEscape ignoreCase c rest
    let (more, rest) ← scanMembers ignoreCase fuel nesting rest
    return (members ++ more, rest)
  | fuel + 1, nesting, c :: rest =>
    if c = ']' && nesting ≤ 1 then .ok ([.plain c], rest)
    else do
      let nesting := if c = '[' then nesting + 1 else if c = ']' then nesting - 1 else nesting
      let (more, rest) ← scanMembers ignoreCase fuel nesting rest
      return (.plain c :: more, rest)

/-- The members of a class after its opening bracket; a closing bracket in front stands for
itself. -/
def scanClass (ignoreCase : Bool) (text : List Char) :
    Except PatternError (List Member × List Char) :=
  let (caret, text) := match text with
    | '^' :: rest => ([Member.plain '^'], rest)
    | _ => ([], text)
  let (bracket, text) := match text with
    | ']' :: rest => ([Member.plain ']'], rest)
    | _ => ([], text)
  do
    let (members, rest) ← scanMembers ignoreCase (text.length + 1) 1 text
    return (caret ++ bracket ++ members, rest)

/-! ### What a class contains -/

/-- How two lists of members are joined. -/
inductive Joint where
  | intersection
  | difference
  | symmetricDifference

/-- The set that a joint makes of two. -/
def Joint.apply : Joint → CharSet → CharSet → CharSet
  | .intersection => .inter
  | .difference => .diff
  | .symmetricDifference => .symmDiff

/-- The character that a member stands for. -/
def Member.char? : Member → Option Char
  | .plain c => some c
  | .escaped c => some c
  | .set _ => none

/-- The set that a member stands for. -/
def Member.charSet : Member → CharSet
  | .plain c => .single c
  | .escaped c => .single c
  | .set s => s

/-- The range between two members. -/
def rangeOf (first last : Member) : Except PatternError CharSet :=
  match first.char?, last.char? with
  | some a, some b => if a ≤ b then .ok (.range a b) else .error .badRange
  | _, _ => .error .badRange

/-- Reads a range or a single member. -/
def readItem (first : Member) : List Member → Except PatternError (CharSet × List Member)
  | [] => .error .unclosedClass
  | [.plain '-'] => .error .unclosedClass
  | .plain '-' :: .plain ']' :: rest => .ok (first.charSet, .plain '-' :: .plain ']' :: rest)
  | .plain '-' :: .plain '-' :: rest => .ok (first.charSet, .plain '-' :: .plain '-' :: rest)
  | .plain '-' :: last :: rest => do return (← rangeOf first last, rest)
  | rest => .ok (first.charSet, rest)

/-- The text of the plain members in front, up to the first colon. -/
def plainName : List Member → List Char × List Member
  | .plain c :: rest =>
    if c = ':' then ([], .plain c :: rest)
    else
      let (name, rest) := plainName rest
      (c :: name, rest)
  | rest => ([], rest)

/-- Reads a named set such as `:alpha:]`, possibly negated, after its opening bracket. -/
def readNamed? (ignoreCase : Bool) (members : List Member) : Option (CharSet × List Member) :=
  match members with
  | .plain ':' :: rest =>
    let (negated, rest) := match rest with
      | .plain '^' :: rest => (true, rest)
      | _ => (false, rest)
    match plainName rest with
    | (name, .plain ':' :: .plain ']' :: rest) =>
      (CharSet.named? name).map fun set =>
        let set := set.folded ignoreCase
        (if negated then .complement set else set, rest)
    | _ => none
  | _ => none

/-- Joins a list of members to what stands before its joint. -/
def joined (ignoreCase : Bool) (before : Option (CharSet × Joint)) (current : CharSet) : CharSet :=
  match before with
  | none => current
  | some (left, joint) => joint.apply (left.folded ignoreCase) (current.folded ignoreCase)

/-- Takes the hyphens in front, which stand for themselves. -/
def takeHyphens : List Member → Bool × List Member
  | .plain '-' :: rest => (true, (takeHyphens rest).2)
  | rest => (false, rest)

/-- The members that stand for themselves in front of a class, and the members after them. -/
def readFront (members : List Member) : CharSet × List Member :=
  match takeHyphens members with
  | (true, rest) => (.single '-', rest)
  | (false, .plain ']' :: rest) => (.single ']', rest)
  | (false, rest) => (.empty, rest)

mutual

/-- Reads a class after its opening bracket. `fuel` bounds the number of members. -/
def readClass (ignoreCase : Bool) : (fuel : Nat) → List Member →
    Except PatternError (CharSet × List Member)
  | 0, _ => .error .unclosedClass
  | fuel + 1, .plain '^' :: rest => do
    let (front, rest) := readFront rest
    let (set, rest) ← readMembers ignoreCase fuel none front rest
    return (.complement (set.folded ignoreCase), rest)
  | fuel + 1, members => do
    let (front, rest) := readFront members
    let (set, rest) ← readMembers ignoreCase fuel none front rest
    return (set.folded ignoreCase, rest)

/-- Reads members up to the closing bracket; `current` holds those since the last joint. -/
def readMembers (ignoreCase : Bool) : (fuel : Nat) → Option (CharSet × Joint) → CharSet →
    List Member → Except PatternError (CharSet × List Member)
  | 0, _, _, _ => .error .unclosedClass
  | _ + 1, _, _, [] => .error .unclosedClass
  | _ + 1, before, current, .plain ']' :: rest => .ok (joined ignoreCase before current, rest)
  | fuel + 1, before, current, .plain '[' :: rest =>
    match readNamed? ignoreCase rest with
    | some (set, rest) => readMembers ignoreCase fuel before (.union current set) rest
    | none => do
      let (set, rest) ← readClass ignoreCase fuel rest
      readMembers ignoreCase fuel before (.union current set) rest
  | fuel + 1, before, current, .plain '&' :: .plain '&' :: rest =>
    readMembers ignoreCase fuel (some (joined ignoreCase before current, .intersection)) .empty
      rest
  | fuel + 1, before, current, .plain '-' :: .plain '-' :: rest =>
    readMembers ignoreCase fuel (some (joined ignoreCase before current, .difference)) .empty rest
  | fuel + 1, before, current, .plain '~' :: .plain '~' :: rest =>
    readMembers ignoreCase fuel (some (joined ignoreCase before current, .symmetricDifference))
      .empty rest
  | fuel + 1, before, current, first :: rest => do
    let (item, rest) ← readItem first rest
    readMembers ignoreCase fuel before (.union current item) rest

end

/-- The set that the members of a class describe, and the members that it leaves. -/
def CharSet.ofMembers (ignoreCase : Bool) (members : List Member) :
    Except PatternError (CharSet × List Member) :=
  readClass ignoreCase (2 * members.length + 1) members

end Questionnaire.Pattern
