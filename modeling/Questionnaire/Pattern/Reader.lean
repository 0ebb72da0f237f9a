import Questionnaire.Pattern.Bracket
import Questionnaire.Pattern.Node
import Questionnaire.Text.Decimal
import Questionnaire.Text.Literal
import Questionnaire.Text.WordTable

/-! # Reading patterns

`Node.ofText` reads a pattern: a choice of branches, a branch of pieces, a piece of an atom and
perhaps a repetition. A brace that begins no repetition stands for itself, and so does a closing
bracket or brace. Flags hold from where they are set to the end of the pattern, those of `(?i:…)`
to the end of the group. -/

namespace Questionnaire.Pattern

/-- What the flags of a pattern change. -/
structure Flags where
  ignoreCase : Bool := false
  /-- The signs of start and end also match at the ends of lines. -/
  multiLine : Bool := false
  /-- The dot also matches a line break. -/
  dotAll : Bool := false
  /-- Repetitions take little, and much with a question mark. -/
  swapGreed : Bool := false
  /-- Blanks and comments between the pieces do not count. -/
  ignoreBlanks : Bool := false

/-- How far a pattern has been read. -/
structure Reading where
  rest : List Char
  flags : Flags
  /-- How many groups have been opened. -/
  groups : Nat
  /-- The named groups, latest first. -/
  names : List (List Char × Nat)
  /-- Whether a group has been referred to by its number. -/
  numbered : Bool
  /-- Numbers of groups lie below this limit. -/
  groupLimit : Nat

/-- A step of reading a pattern. -/
abbrev Reader := StateT Reading (Except PatternError)

namespace Reader

/-! ### Characters -/

/-- What has not been read. -/
def rest : Reader (List Char) := return (← get).rest

/-- Goes on from some text. -/
def continueFrom (rest : List Char) : Reader Unit := modify fun r => { r with rest }

/-- Reads the text if it comes next. -/
def accept (text : String) : Reader Bool := do
  let rest ← Reader.rest
  if text.toList.isPrefixOf rest then
    continueFrom (rest.drop text.length)
    return true
  else return false

/-- Where between the pieces of a pattern a reader is. -/
inductive Gap where
  | outside
  | lineComment
  | comment

/-- Whether a character is passed over if blanks do not count. -/
def isGapBlank (c : Char) : Bool := c == ' ' || c == '\r' || c == '\n' || c == '\t'

/-- The text after comments in parentheses and, if blanks do not count, after blanks and line
comments. -/
def skipGap (ignoreBlanks : Bool) : Gap → List Char → Except PatternError (List Char)
  | .outside, '(' :: '?' :: '#' :: rest => skipGap ignoreBlanks .comment rest
  | .outside, c :: rest =>
    if ignoreBlanks && c == '#' then skipGap ignoreBlanks .lineComment rest
    else if ignoreBlanks && isGapBlank c then skipGap ignoreBlanks .outside rest
    else .ok (c :: rest)
  | .lineComment, '\n' :: rest => skipGap ignoreBlanks .outside rest
  | .lineComment, _ :: rest => skipGap ignoreBlanks .lineComment rest
  | .comment, ')' :: rest => skipGap ignoreBlanks .outside rest
  | .comment, '\\' :: _ :: rest => skipGap ignoreBlanks .comment rest
  | .comment, _ :: rest => skipGap ignoreBlanks .comment rest
  | .comment, [] => .error .unclosedGroup
  | _, [] => .ok []

/-- Passes over what does not count. -/
def skip : Reader Unit := do
  let r ← get
  continueFrom (← skipGap r.flags.ignoreBlanks .outside r.rest)

/-! ### Numbers and names -/

/-- The number of the digits in front, and the text after them. -/
def number? (text : List Char) : Option (Nat × List Char) :=
  (Decimal.ofDigits? (text.takeWhile Decimal.isDigit)).map (·, text.dropWhile Decimal.isDigit)

/-- Whether a character may stand in the name of a group. -/
def isNameChar (c : Char) : Bool :=
  c == '_' || (c.toNat < 0x80 && c.isAlphanum)
    || (0x80 ≤ c.toNat && Text.inRanges Text.wordRanges c)

/-- Reads a name that the given character closes. -/
def name (close : Char) : Reader (List Char) := do
  let text ← rest
  match text.takeWhile isNameChar, text.dropWhile isNameChar with
  | [], _ => throw .badGroupName
  | name, c :: rest =>
    if c = close then
      continueFrom rest
      return name
    else throw .badGroupName
  | _, [] => throw .badGroupName

/-- Refers to a group, which has to be opened by now. -/
def referTo (group : Nat) : Reader Node := do
  if (← get).groups < group then throw .badReference
  return .reference group

/-- Reads a reference by name, or by number, or by how many groups ago, up to a character. -/
def namedReference (close : Char) : Reader Node := do
  let ago ← accept "-"
  let id ← name close
  let r ← get
  match if ago then none else r.names.lookup id, number? id with
  | some group, _ => referTo group
  | none, some (n, []) =>
    if !ago then referTo n
    else if n ≤ r.groups + 1 then referTo (r.groups + 1 - n)
    else throw .badReference
  | _, _ => throw .badReference

/-- Reads a reference by number. -/
def numberedReference : Reader Node := do
  match number? (← rest) with
  | some (group, rest) =>
    if group < (← get).groupLimit then
      modify fun r => { r with rest, numbered := true }
      referTo group
    else throw .badReference
  | none => throw .badReference

/-! ### Atoms without parts -/

/-- The pattern of one character. -/
def charNode (c : Char) : Reader Node := do
  return .char ((CharSet.single c).folded (← get).flags.ignoreCase)

/-- The set of the characters that the dot matches. -/
def dotSet (dotAll : Bool) : CharSet :=
  if dotAll then .complement .empty else .complement (.single '\n')

/-- The pattern of members that a class leaves. -/
def leftOver (members : List Member) : List Node := members.map (.char ·.charSet)

/-- Reads a class after its opening bracket. -/
def classNode : Reader Node := do
  let r ← get
  let (members, rest) ← scanClass r.flags.ignoreCase r.rest
  continueFrom rest
  let (set, more) ← CharSet.ofMembers r.flags.ignoreCase members
  return .ofSeq (.char set :: leftOver more)

/-- Reads the name of a property after its letter. -/
def propertyNode (negated : Bool) : Reader Node := do
  let r ← get
  let (set, rest) ← readProperty r.flags.ignoreCase negated r.rest
  continueFrom rest
  return .char set

/-- Reads what a backslash makes of the character after it. -/
def escapeNode : Reader Node := do
  match ← rest with
  | [] => throw .trailingBackslash
  | c :: rest =>
    if Decimal.isDigit c then numberedReference
    else
      continueFrom rest
      match codeDigits? c with
      | some count => do
        let (d, rest) ← readCode count rest
        continueFrom rest
        charNode d
      | none =>
        match c with
        | 'p' => propertyNode false
        | 'P' => propertyNode true
        | 'k' => if ← accept "<" then namedReference '>' else throw .badGroupName
        | 'A' => return .assertion .textStart
        | 'z' => return .assertion .textEnd
        | '<' => return .assertion .wordStart
        | '>' => return .assertion .wordEnd
        | 'h' => return .char (.ofRanges [('0', '9'), ('A', 'F'), ('a', 'f')])
        | 'H' => return .char (.complement (.ofRanges [('0', '9'), ('A', 'F'), ('a', 'f')]))
        | 'K' => return .keepOut
        | 'G' => return .searchStart
        | c => return .char (.single (← escapedChar c))

/-! ### Repetitions -/

/-- Reads the bounds of a repetition after its opening brace, if they are that. -/
def bounds? : Reader (Option (Nat × Option Nat)) := do
  let ignoreBlanks := (← get).flags.ignoreBlanks
  let start ← skipGap ignoreBlanks .outside (← rest)
  let least := match start with
    | ',' :: _ => some (0, start)
    | _ => number? start
  match least with
  | none => return none
  | some (least, text) =>
    match ← skipGap ignoreBlanks .outside text with
    | '}' :: text => do
      continueFrom text
      return some (least, some least)
    | ',' :: text => do
      let text ← skipGap ignoreBlanks .outside text
      let (most, text) := match number? text with
        | some (most, text) => (if most + 1 = wordLimit then none else some most, text)
        | none => (none, text)
      match ← skipGap ignoreBlanks .outside text with
      | '}' :: text => do
        continueFrom text
        return some (least, most)
      | _ => return none
    | _ => return none

/-- Reads the sign of a repetition, if one comes next. -/
def repetition? : Reader (Option (Nat × Option Nat)) := do
  match ← rest with
  | '?' :: text => continueFrom text; return some (0, some 1)
  | '*' :: text => continueFrom text; return some (0, none)
  | '+' :: text => continueFrom text; return some (1, none)
  | '{' :: text =>
    let before ← get
    continueFrom text
    let found ← try bounds? catch _ => pure none
    if found.isNone then set before
    return found
  | _ => return none

/-- Repeats an atom as the sign after it says. -/
def repeated (atom : Node) : Reader Node := do
  match ← repetition? with
  | none => return atom
  | some (least, most) =>
    if !atom.isRepeatable then throw .nothingToRepeat
    skip
    let lazily ← accept "?"
    let greedy := lazily == (← get).flags.swapGreed
    let node := Node.repetition atom least most greedy
    if ← accept "+" then return .atomic node else return node

/-! ### Groups -/

/-- Reads a closing parenthesis. -/
def close : Reader Unit := do
  skip
  if !(← accept ")") then throw .unclosedGroup

/-- Opens a group and gives its number. -/
def openGroup : Reader Nat := do
  modify fun r => { r with groups := r.groups + 1 }
  return (← get).groups

/-- Opens a group with a name and gives its number. -/
def openNamed : Reader Nat := do
  let index ← openGroup
  let name ← name '>'
  modify fun r => { r with names := (name, index) :: r.names }
  return index

/-- Sets or clears the flag with the letter. -/
def setFlag (flags : Flags) (letter : Char) (value : Bool) : Except PatternError Flags :=
  match letter with
  | 'i' => .ok { flags with ignoreCase := value }
  | 'm' => .ok { flags with multiLine := value }
  | 's' => .ok { flags with dotAll := value }
  | 'U' => .ok { flags with swapGreed := value }
  | 'x' => .ok { flags with ignoreBlanks := value }
  | 'u' => if value then .ok flags else .error .unknownFlag
  | _ => .error .unknownFlag

/-- Reads flags up to a colon or a closing parenthesis, and tells whether it was a colon. `seen`
says whether a flag or a sign has been read and `value` whether flags are being set. -/
def flags : (fuel : Nat) → (seen value : Bool) → Reader Bool
  | 0, _, _ => throw .unclosedGroup
  | fuel + 1, seen, value => do
    skip
    match ← rest with
    | [] => throw .unclosedGroup
    | c :: text =>
      continueFrom text
      match c with
      | ')' => if seen then return false else throw .unknownFlag
      | ':' => if seen || value then return true else throw .unknownFlag
      | '-' => if value then flags fuel seen false else throw .unknownFlag
      | c => do
        let changed ← setFlag (← get).flags c value
        modify fun r => { r with flags := changed }
        flags fuel true value

/-- A conditional, or its condition alone if there is nothing to choose. -/
def conditionalNode (condition content : Node) : Node :=
  let condition := match condition with
    | .reference group => .entered group
    | condition => condition
  let (whenTrue, whenFalse) := match content with
    | .alt [first, second] => (first, second)
    | .alt (first :: others) => (first, .alt others)
    | content => (content, .empty)
  if whenTrue.isEmpty && whenFalse.isEmpty then condition
  else .conditional condition whenTrue whenFalse

/-- How deep groups may be nested. -/
def nestingLimit : Nat := 64

mutual

/-- Reads a choice of branches, inside `depth` groups. `fuel` bounds the depth of the recursion. -/
def choice : (fuel depth : Nat) → Reader Node
  | 0, _ => throw .nestedTooDeeply
  | fuel + 1, depth => do
    let first ← branch fuel depth
    skip
    match ← rest with
    | '|' :: _ => return .alt (.ofSeq first :: (← otherBranches fuel depth))
    | _ =>
      let r ← get
      if r.numbered && !r.names.isEmpty then throw .mixedReferences
      return .ofSeq first

/-- Reads the branches that follow a first one. -/
def otherBranches : (fuel depth : Nat) → Reader (List Node)
  | 0, _ => throw .nestedTooDeeply
  | fuel + 1, depth => do
    if ← accept "|" then
      let next ← branch fuel depth
      skip
      return .ofSeq next :: (← otherBranches fuel depth)
    else return []

/-- Reads pieces in a row. -/
def branch : (fuel depth : Nat) → Reader (List Node)
  | 0, _ => throw .nestedTooDeeply
  | fuel + 1, depth => do
    let before ← rest
    if before.isEmpty then return []
    let node ← piece fuel depth
    if (← rest).length = before.length then return []
    let more ← branch fuel depth
    return if node.isEmpty then more else node :: more

/-- Reads an atom and its repetition. -/
def piece : (fuel depth : Nat) → Reader Node
  | 0, _ => throw .nestedTooDeeply
  | fuel + 1, depth => do
    let node ← atom fuel depth
    skip
    repeated node

/-- Reads an atom; nothing at the end of a branch. -/
def atom : (fuel depth : Nat) → Reader Node
  | 0, _ => throw .nestedTooDeeply
  | fuel + 1, depth => do
    skip
    let r ← get
    match r.rest with
    | [] => return .empty
    | '.' :: text => continueFrom text; return .char (dotSet r.flags.dotAll)
    | '^' :: text =>
      continueFrom text
      return .assertion (if r.flags.multiLine then .lineStart else .textStart)
    | '$' :: text =>
      continueFrom text
      return .assertion (if r.flags.multiLine then .lineEnd else .textEnd)
    | '(' :: text => continueFrom text; group fuel (depth + 1)
    | '\\' :: text => continueFrom text; escapeNode
    | '[' :: text => continueFrom text; classNode
    | c :: text =>
      if c = '+' || c = '*' || c = '?' || c = '|' || c = ')' then return .empty
      continueFrom text
      charNode c

/-- Reads a group after its opening parenthesis. -/
def group : (fuel depth : Nat) → Reader Node
  | 0, _ => throw .nestedTooDeeply
  | fuel + 1, depth => do
    if nestingLimit ≤ depth then throw .nestedTooDeeply
    skip
    if ← accept "?=" then enclosed fuel depth (.look false false)
    else if ← accept "?!" then enclosed fuel depth (.look false true)
    else if ← accept "?<=" then enclosed fuel depth (.look true false)
    else if ← accept "?<!" then enclosed fuel depth (.look true true)
    else if ← accept "?<" then enclosed fuel depth (.group (← openNamed))
    else if ← accept "?P<" then enclosed fuel depth (.group (← openNamed))
    else if ← accept "?P=" then namedReference ')'
    else if ← accept "?>" then enclosed fuel depth .atomic
    else if ← accept "?(" then conditional fuel depth
    else if ← accept "?" then flagged fuel depth
    else enclosed fuel depth (.group (← openGroup))

/-- Reads the content of a group and its closing parenthesis. -/
def enclosed : (fuel depth : Nat) → (Node → Node) → Reader Node
  | 0, _, _ => throw .nestedTooDeeply
  | fuel + 1, depth, make => do
    let node ← choice fuel depth
    close
    return make node

/-- Reads flags, and the content of the group if it has any. -/
def flagged : (fuel depth : Nat) → Reader Node
  | 0, _ => throw .nestedTooDeeply
  | fuel + 1, depth => do
    let before := (← get).flags
    if ← flags (fuel + 1) false true then
      let node ← choice fuel depth
      if !(← accept ")") then throw .unclosedGroup
      modify fun r => { r with flags := before }
      return node
    else return .empty

/-- Reads a conditional after the parenthesis of its condition. -/
def conditional : (fuel depth : Nat) → Reader Node
  | 0, _ => throw .nestedTooDeeply
  | fuel + 1, depth => do
    let condition ← match ← rest with
      | '<' :: text => continueFrom text; namedReference '>'
      | '\'' :: text => continueFrom text; namedReference '\''
      | c :: _ => if Decimal.isDigit c then numberedReference else choice fuel depth
      | [] => throw .unclosedGroup
    close
    let before ← rest
    let content ← choice fuel depth
    if (← rest).length = before.length then
      match condition with
      | .reference group =>
        close
        return .entered group
      | _ => throw .badConditional
    close
    return conditionalNode condition content

end

end Reader

/-- Reads a pattern, whose shorthands have been written out. -/
def Node.ofText (text : List Char) : Except PatternError Node := do
  let start : Reading :=
    { rest := text, flags := {}, groups := 0, names := [], numbered := false,
      groupLimit := (String.ofList text).utf8ByteSize / 2 }
  let (node, reading) ← (Reader.choice (8 * text.length + 16) 0).run start
  if reading.rest.isEmpty then return node else throw .strayParenthesis

end Questionnaire.Pattern
