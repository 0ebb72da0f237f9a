import Questionnaire.Pattern.Plan
import Questionnaire.Pattern.Reader

/-! # Patterns of valid answers

A pattern is a regular expression with the meaning that it has in a browser. `Pattern.compile` reads
it, and `Pattern.foundIn` says whether it matches anywhere in a text.

In a browser `\d`, `\w` and `\b` know the letters and digits of ASCII alone and `\s` has a list of
its own. `Pattern.expandShorthands` writes them out as ranges, so that what is left of a pattern
means the same everywhere. Inside a class a shorthand becomes bare ranges, which join the members
beside it; outside it becomes a class, or for a word boundary a choice between lookarounds. -/

namespace Questionnaire

/-! ### Shorthands -/

namespace Pattern

/-- A code point as an escape. -/
def codeEscape (n : Nat) : List Char :=
  ['\\', 'x', '{'] ++ (Nat.toDigits 16 n).map Char.toUpper ++ ['}']

/-- A range of code points, or a single one, as a member of a class. -/
def codeRange (range : Nat × Nat) : List Char :=
  if range.1 = range.2 then codeEscape range.1
  else codeEscape range.1 ++ '-' :: codeEscape range.2

/-- The members of `\d`. -/
def digitMembers : List Char := ['0', '-', '9']

/-- The members of `\D`. -/
def notDigitMembers : List Char := [(0, 0x2f), (0x3a, 0x10ffff)].flatMap codeRange

/-- The members of `\w`. -/
def wordMembers : List Char := ['0', '-', '9', 'A', '-', 'Z', 'a', '-', 'z', '_']

/-- The members of `\W`. -/
def notWordMembers : List Char :=
  [(0, 0x2f), (0x3a, 0x40), (0x5b, 0x5e), (0x60, 0x60), (0x7b, 0x10ffff)].flatMap codeRange

/-- The members of `\s`. -/
def blankMembers : List Char :=
  [(0x9, 0xd), (0x20, 0x20), (0xa0, 0xa0), (0x1680, 0x1680), (0x2000, 0x200a), (0x2028, 0x2028),
    (0x2029, 0x2029), (0x202f, 0x202f), (0x205f, 0x205f), (0x3000, 0x3000),
    (0xfeff, 0xfeff)].flatMap codeRange

/-- A class of some members. -/
def bracketed (members : List Char) : List Char := '[' :: (members ++ [']'])

/-- The ways to look at the characters beside a place: whether there is a word character before it
and whether there is one after it. -/
def besideWord (before after : Bool) : List Char :=
  ['(', '?', '<', if before then '=' else '!'] ++ bracketed wordMembers ++ [')']
    ++ ['(', '?', if after then '=' else '!'] ++ bracketed wordMembers ++ [')']

/-- A choice between two ways. -/
def either (first second : List Char) : List Char :=
  ['(', '?', ':'] ++ first ++ '|' :: second ++ [')']

/-- A place between a word character and something else. -/
def wordBoundary : List Char := either (besideWord true false) (besideWord false true)

/-- A place between two word characters or beside none. -/
def notWordBoundary : List Char := either (besideWord true true) (besideWord false false)

/-- What stands for a shorthand inside a class. -/
def shorthandInClass : Char → Option (List Char)
  | 'd' => some digitMembers
  | 'D' => some notDigitMembers
  | 'w' => some wordMembers
  | 'W' => some notWordMembers
  | 's' => some blankMembers
  | 'b' => some (codeEscape 8)
  | _ => none

/-- What stands for a shorthand outside a class. -/
def shorthandOutside : Char → Option (List Char)
  | 'd' => some (bracketed digitMembers)
  | 'D' => some (bracketed notDigitMembers)
  | 'w' => some (bracketed wordMembers)
  | 'W' => some (bracketed notWordMembers)
  | 's' => some (bracketed blankMembers)
  | 'S' => some (bracketed ('^' :: blankMembers))
  | 'b' => some wordBoundary
  | 'B' => some notWordBoundary
  | _ => none

/-- What stands for the escape of a character, inside a class or outside. -/
def shorthand (inClass : Bool) (c : Char) : Option (List Char) :=
  if inClass then shorthandInClass c else shorthandOutside c

/-- Writes out the shorthands of a pattern, from a place inside a class or outside. -/
def expandFrom (inClass : Bool) : List Char → List Char
  | [] => []
  | ['\\'] => ['\\']
  | '\\' :: c :: rest =>
    (shorthand inClass c).getD ['\\', c] ++ expandFrom inClass rest
  | c :: rest =>
    c :: expandFrom (if inClass then c != ']' else c == '[') rest

/-- Writes out the shorthands of a pattern. -/
def expandShorthands (pattern : List Char) : List Char := expandFrom false pattern

end Pattern

/-! ### Compiled patterns -/

/-- A pattern that is ready for use. -/
inductive Pattern where
  /-- Matched without coming back to a choice. -/
  | plain (node : Pattern.Node)
  | hard (plan : Pattern.Plan)

namespace Pattern

/-- The pattern of a tree. -/
def ofNode (node : Node) : Except PatternError Pattern :=
  if node.isHard node.references then do
    return .hard (← Plan.ofNode node.references true node)
  else do
    node.checkLimits
    return .plain node

/-- Reads a pattern. -/
def compile (pattern : String) : Except PatternError Pattern := do
  ofNode (← Node.ofText (expandShorthands pattern.toList))

/-- Whether the pattern matches anywhere in the text. -/
def foundIn (text : String) : Pattern → Except PatternError Bool
  | plain node => .ok (node.foundIn text.toList.toArray)
  | hard plan => plan.foundIn text.toList.toArray

end Pattern

/-- Whether a pattern matches anywhere in a text. -/
def patternMatches (pattern text : String) : Except PatternError Bool := do
  (← Pattern.compile pattern).foundIn text

end Questionnaire
