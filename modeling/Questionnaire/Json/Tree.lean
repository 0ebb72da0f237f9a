import Questionnaire.Json.Value

/-! # JSON texts as trees

A text that breaks the rules of JSON is still read into a tree, as far as it goes, and every
place where it breaks them carries the faults to report there. Which fault comes first depends
on what is wanted of the text: a value that nobody asks for is only passed over
(`Node.passFault?`), a value of the wrong kind is refused before anybody looks inside, and a
value that is wanted whole is checked from left to right (`Node.readFault?`). Deciding this on the
tree keeps the decoders of single types free of any knowledge of the text. -/

namespace Questionnaire

/-- A breach of the rules of JSON. -/
inductive Fault where
  | endInValue
  | endInList
  | endInObject
  | endInString
  | colonExpected
  | listCommaExpected
  | objectCommaExpected
  | valueExpected
  | wordExpected
  | keyExpected
  | trailingComma
  | trailingCharacters
  | controlCharacter
  | invalidEscape
  | invalidHexEscape
  | loneSurrogate
  | unfinishedSurrogate
  | invalidUnicode
  | invalidNumber
  | numberOutOfRange
  | tooDeep
  deriving DecidableEq, Repr

/-- What is reported about a breach. -/
def Fault.message : Fault → String
  | .endInValue => "EOF while parsing a value"
  | .endInList => "EOF while parsing a list"
  | .endInObject => "EOF while parsing an object"
  | .endInString => "EOF while parsing a string"
  | .colonExpected => "expected `:`"
  | .listCommaExpected => "expected `,` or `]`"
  | .objectCommaExpected => "expected `,` or `\x7d`"
  | .valueExpected => "expected value"
  | .wordExpected => "expected ident"
  | .keyExpected => "key must be a string"
  | .trailingComma => "trailing comma"
  | .trailingCharacters => "trailing characters"
  | .controlCharacter => "control character (\\u0000-\\u001F) found while parsing a string"
  | .invalidEscape => "invalid escape"
  | .invalidHexEscape => "invalid escape"
  | .loneSurrogate => "lone leading surrogate in hex escape"
  | .unfinishedSurrogate => "unexpected end of hex escape"
  | .invalidUnicode => "invalid unicode code point"
  | .invalidNumber => "invalid number"
  | .numberOutOfRange => "number out of range"
  | .tooDeep => "recursion limit exceeded"

/-- How the items of a list or the entries of an object come to an end. -/
inductive Ending where
  | closed
  /-- The text breaks off: the faults for a reader who wants another item, for one who wants only
  the closing bracket, and for one who passes over all of it. -/
  | broken (read finish pass : Fault)
  deriving DecidableEq, Repr

/-- The key of an entry; a faulty one may still be passed over. If something other than a text
stands in its place, that is the value of the entry. -/
inductive Name where
  | text (name : String)
  | faulty (read : Fault) (pass : Option Fault)
  deriving DecidableEq, Repr

/-- A JSON text, or what can be made of it. -/
inductive Node where
  | null
  | bool (value : Bool)
  | number (value : JsonNumber)
  | string (value : String)
  | array (items : List Node) (ending : Ending)
  | object (entries : List (Name × Node)) (ending : Ending)
  /-- A list or object nested too deeply to be read, though not to be passed over. -/
  | buried (value : Node)
  /-- A number or one of the words that is misspelt or too large. -/
  | badLiteral (read : Fault) (pass : Option Fault)
  /-- A faulty string, or no value at all. -/
  | unreadable (read : Fault) (pass : Option Fault)
  deriving Repr, Inhabited

namespace Node

mutual

/-- The tree of a value that is at hand. -/
def ofJson : Json → Node
  | .null => .null
  | .bool value => .bool value
  | .number value => .number value
  | .string value => .string value
  | .array items => .array (ofItems items) .closed
  | .object entries => .object (ofEntries entries) .closed

/-- The trees of some items. -/
def ofItems : List Json → List Node
  | [] => []
  | item :: rest => ofJson item :: ofItems rest

/-- The trees of some entries. -/
def ofEntries : List (String × Json) → List (Name × Node)
  | [] => []
  | (key, value) :: rest => (.text key, ofJson value) :: ofEntries rest

end

mutual

/-- The first fault met by a reader who passes over the value. -/
def passFault? : Node → Option Fault
  | .null | .bool _ | .number _ | .string _ => none
  | .array items ending => passItems? items <|> match ending with
    | .closed => none
    | .broken _ _ fault => some fault
  | .object entries ending => passEntries? entries <|> match ending with
    | .closed => none
    | .broken _ _ fault => some fault
  | .buried value => value.passFault?
  | .badLiteral _ fault => fault
  | .unreadable _ fault => fault

/-- `passFault?` on items in a row. -/
def passItems? : List Node → Option Fault
  | [] => none
  | item :: rest => item.passFault? <|> passItems? rest

/-- `passFault?` on entries in a row. -/
def passEntries? : List (Name × Node) → Option Fault
  | [] => none
  | (.faulty _ (some fault), _) :: _ => some fault
  | (_, value) :: rest => value.passFault? <|> passEntries? rest

end

mutual

/-- The first fault met by a reader who wants the whole value. -/
def readFault? : Node → Option Fault
  | .null | .bool _ | .number _ | .string _ => none
  | .array items ending => readItems? items <|> match ending with
    | .closed => none
    | .broken fault _ _ => some fault
  | .object entries ending => readEntries? entries <|> match ending with
    | .closed => none
    | .broken fault _ _ => some fault
  | .buried _ => some .tooDeep
  | .badLiteral fault _ => some fault
  | .unreadable fault _ => some fault

/-- `readFault?` on items in a row. -/
def readItems? : List Node → Option Fault
  | [] => none
  | item :: rest => item.readFault? <|> readItems? rest

/-- `readFault?` on entries in a row. -/
def readEntries? : List (Name × Node) → Option Fault
  | [] => none
  | (.faulty fault _, _) :: _ => some fault
  | (.text _, value) :: rest => value.readFault? <|> readEntries? rest

end

mutual

/-- How many lists and objects are nested at most. -/
def depth : Node → Nat
  | .array items _ => depthItems items + 1
  | .object entries _ => depthEntries entries + 1
  | .buried value => value.depth + 1
  | _ => 0

/-- The greatest depth of some items. -/
def depthItems : List Node → Nat
  | [] => 0
  | item :: rest => max item.depth (depthItems rest)

/-- The greatest depth of some entries. -/
def depthEntries : List (Name × Node) → Nat
  | [] => 0
  | (_, value) :: rest => max value.depth (depthEntries rest)

end

mutual

/-- The value of a tree without faults. -/
def toJson? : Node → Option Json
  | .null => some .null
  | .bool value => some (.bool value)
  | .number value => some (.number value)
  | .string value => some (.string value)
  | .array items .closed => (toItems? items).map .array
  | .object entries .closed => (toEntries? entries).map .object
  | _ => none

/-- The values of some items. -/
def toItems? : List Node → Option (List Json)
  | [] => some []
  | item :: rest => do return (← item.toJson?) :: (← toItems? rest)

/-- The values of some entries. -/
def toEntries? : List (Name × Node) → Option (List (String × Json))
  | [] => some []
  | (.text key, value) :: rest => do return (key, ← value.toJson?) :: (← toEntries? rest)
  | (.faulty _ _, _) :: _ => none

end

end Node

end Questionnaire
