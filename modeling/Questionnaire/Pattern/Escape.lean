/-! # Escaped characters of a pattern

A backslash before a letter names a control character or introduces a code point in hexadecimal;
before anything else it makes the next character stand for itself.

A pattern that cannot be used (`PatternError`) is never reported to the person who fills in a form:
its rule is passed over. The causes are kept apart all the same. -/

namespace Questionnaire

/-- Why a pattern cannot be used. -/
inductive PatternError where
  | unclosedGroup
  | unclosedClass
  /-- A closing parenthesis that closes nothing. -/
  | strayParenthesis
  /-- A repetition of nothing, of a place or of a lookaround. -/
  | nothingToRepeat
  | trailingBackslash
  | unknownEscape (c : Char)
  /-- A code point that is not written out or is no character. -/
  | badCodePoint
  | unknownProperty
  /-- A range whose ends are out of order or no characters. -/
  | badRange
  | badReference
  | badGroupName
  | unknownFlag
  /-- A numbered reference in a pattern with named groups. -/
  | mixedReferences
  | badConditional
  | nestedTooDeeply
  /-- A repetition whose bounds are out of order or too large. -/
  | badBounds
  /-- A lookbehind for texts of different lengths. -/
  | variableLookbehind
  | tooLarge
  /-- Matching a text took too many steps. -/
  | exhausted
  deriving DecidableEq, Repr

namespace Pattern

/-- Whether a character is a letter of ASCII. -/
def isLetter (c : Char) : Bool := ('a' ≤ c && c ≤ 'z') || ('A' ≤ c && c ≤ 'Z')

/-- The value of a hexadecimal digit. -/
def hexValue? (c : Char) : Option Nat :=
  if '0' ≤ c && c ≤ '9' then some (c.toNat - '0'.toNat)
  else if 'a' ≤ c && c ≤ 'f' then some (c.toNat - 'a'.toNat + 10)
  else if 'A' ≤ c && c ≤ 'F' then some (c.toNat - 'A'.toNat + 10)
  else none

/-- The number that some hexadecimal digits spell. -/
def hexNumber? (digits : List Char) : Option Nat :=
  digits.foldlM (fun n c => (hexValue? c).map (16 * n + ·)) 0

/-- The character of a code point. -/
def charOfCode (n : Nat) : Except PatternError Char :=
  if n.isValidChar then .ok (.ofNat n) else .error .badCodePoint

/-- Reads one to eight hexadecimal digits up to a closing brace. -/
def readBraced (text : List Char) : Except PatternError (Char × List Char) :=
  let digits := text.takeWhile (hexValue? · |>.isSome)
  match hexNumber? digits, text.dropWhile (hexValue? · |>.isSome) with
  | some n, '}' :: rest =>
    if 0 < digits.length && digits.length ≤ 8 then do return (← charOfCode n, rest)
    else .error .badCodePoint
  | _, _ => .error .badCodePoint

/-- Reads a code point of `count` hexadecimal digits, or of one to eight in braces. -/
def readCode (count : Nat) (text : List Char) : Except PatternError (Char × List Char) :=
  match hexNumber? (text.take count) with
  | some n =>
    if count ≤ text.length then do return (← charOfCode n, text.drop count)
    else .error .badCodePoint
  | none =>
    match text with
    | '{' :: rest => readBraced rest
    | _ => .error .badCodePoint

/-- How many digits follow the letter that introduces a code point. -/
def codeDigits? : Char → Option Nat
  | 'x' => some 2
  | 'u' => some 4
  | 'U' => some 8
  | _ => none

/-- The character that the escape of a letter names. -/
def controlChar? : Char → Option Char
  | 'a' => some '\x07'
  | 'f' => some '\x0c'
  | 'n' => some '\n'
  | 'r' => some '\r'
  | 't' => some '\t'
  | 'v' => some '\x0b'
  | 'e' => some '\x1b'
  | _ => none

/-- The character that an escaped character stands for if it has no meaning of its own. -/
def escapedChar (c : Char) : Except PatternError Char :=
  match controlChar? c with
  | some control => .ok control
  | none => if isLetter c then .error (.unknownEscape c) else .ok c

end Pattern

end Questionnaire
