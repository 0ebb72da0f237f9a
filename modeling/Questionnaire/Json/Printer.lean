import Questionnaire.Json.Value
import Questionnaire.Number.Shortest

/-! # Writing JSON

`Json.compact` writes a value without any blank, `Json.pretty` with one item or entry a line and
two blanks a level. Both escape the quote, the backslash and the control characters, and nothing
else. -/

namespace Questionnaire.Json

/-- A hexadecimal digit, in lower case. -/
def hexDigit (n : Nat) : Char := Nat.digitChar (n % 16)

/-- How a character stands inside a quoted text. -/
def escapeChar (c : Char) : List Char :=
  match c with
  | '"' => ['\\', '"']
  | '\\' => ['\\', '\\']
  | '\n' => ['\\', 'n']
  | '\r' => ['\\', 'r']
  | '\t' => ['\\', 't']
  | '\x08' => ['\\', 'b']
  | '\x0c' => ['\\', 'f']
  | c =>
    if c < ' ' then ['\\', 'u', '0', '0', hexDigit (c.toNat / 16), hexDigit c.toNat]
    else [c]

/-- A text in quotes. -/
def quote (text : String) : List Char := '"' :: (text.toList.flatMap escapeChar ++ ['"'])

/-- The text of a number. -/
def numberText : JsonNumber → List Char
  | .natural n => Decimal.print n
  | .negative n => '-' :: Decimal.print n
  | .double x => x.jsonText

mutual

/-- The characters of a value, without blanks. -/
def compactChars : Json → List Char
  | .null => ['n', 'u', 'l', 'l']
  | .bool true => ['t', 'r', 'u', 'e']
  | .bool false => ['f', 'a', 'l', 's', 'e']
  | .number value => numberText value
  | .string value => quote value
  | .array [] => ['[', ']']
  | .array (item :: rest) => '[' :: (compactChars item ++ compactItems rest)
  | .object [] => ['{', '}']
  | .object ((key, value) :: rest) =>
    '{' :: (quote key ++ ':' :: (compactChars value ++ compactEntries rest))

/-- The items after the first one, and the closing bracket. -/
def compactItems : List Json → List Char
  | [] => [']']
  | item :: rest => ',' :: (compactChars item ++ compactItems rest)

/-- The entries after the first one, and the closing brace. -/
def compactEntries : List (String × Json) → List Char
  | [] => ['}']
  | (key, value) :: rest =>
    ',' :: (quote key ++ ':' :: (compactChars value ++ compactEntries rest))

end

/-- A line break and the blanks of a level. -/
def newline (level : Nat) : List Char := '\n' :: List.replicate (2 * level) ' '

mutual

/-- The characters of a value that stands at a level, an item or entry a line. -/
def prettyChars (level : Nat) : Json → List Char
  | .array (item :: rest) =>
    '[' :: (newline (level + 1) ++ prettyChars (level + 1) item ++ prettyItems level rest)
  | .object ((key, value) :: rest) =>
    '{' :: (newline (level + 1) ++ quote key ++ ':' :: ' ' ::
      (prettyChars (level + 1) value ++ prettyEntries level rest))
  | .null => ['n', 'u', 'l', 'l']
  | .bool true => ['t', 'r', 'u', 'e']
  | .bool false => ['f', 'a', 'l', 's', 'e']
  | .number value => numberText value
  | .string value => quote value
  | .array [] => ['[', ']']
  | .object [] => ['{', '}']

/-- The items after the first one, and the closing bracket on its own line. -/
def prettyItems (level : Nat) : List Json → List Char
  | [] => newline level ++ [']']
  | item :: rest =>
    ',' :: (newline (level + 1) ++ prettyChars (level + 1) item ++ prettyItems level rest)

/-- The entries after the first one, and the closing brace on its own line. -/
def prettyEntries (level : Nat) : List (String × Json) → List Char
  | [] => newline level ++ ['}']
  | (key, value) :: rest =>
    ',' :: (newline (level + 1) ++ quote key ++ ':' :: ' ' ::
      (prettyChars (level + 1) value ++ prettyEntries level rest))

end

/-- The text of a value, without blanks. -/
def compact (value : Json) : String := .ofList (compactChars value)

/-- The text of a value, an item or entry a line. -/
def pretty (value : Json) : String := .ofList (prettyChars 0 value)

end Questionnaire.Json
