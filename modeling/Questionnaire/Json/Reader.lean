import Questionnaire.Json.Tree
import Questionnaire.Text.Decimal
import Questionnaire.Text.Utf8

/-! # Reading JSON texts into trees

`Json.readText` reads a whole text: its value as a `Node`, and whether anything but blanks
follows. Reading never fails; where the text breaks the rules, the tree says so. Lists and objects
below the nesting limit are read as far as all others but are marked as buried.

An integer of 64 bits keeps its value. Any other number is read in two roundings: its leading
digits, as many as fit a 64-bit word, become a binary64 number, and that is multiplied or divided
by a power of ten. The result can lie one place beside the nearest number; this is the rule of
the format read here, and a number beyond the range is a fault. -/

namespace Questionnaire.Json

/-! ### The value of a number -/

/-- A run of digits taken into a 64-bit word. -/
structure DigitRun where
  word : Nat
  /-- How many digits the word took. -/
  taken : Nat
  /-- How many digits came after the word was full. -/
  ignored : Nat

/-- Appends digits to a word until the next one would not fit. -/
def takeDigits (word : Nat) : List Char → DigitRun
  | [] => ⟨word, 0, 0⟩
  | c :: rest =>
    let next := 10 * word + Decimal.digitValue c
    if next < wordLimit then
      let run := takeDigits next rest
      { run with taken := run.taken + 1 }
    else ⟨word, 0, rest.length + 1⟩

/-- The largest power of ten by which a number is scaled in one step. -/
def maxPowerOfTen : Nat := 308

/-- Divides by the largest power of ten, over and over; a zero stays as it is. -/
def divideSteps (x : Binary64) : Nat → Option Binary64
  | 0 => some x
  | steps + 1 => do
    if x.isZero then return x
    divideSteps (← x.div? (← Binary64.powerOfTen? maxPowerOfTen)) steps

/-- `x · 10 ^ exponent` for an `x` that is not negative, each step rounded. -/
def scaleByTen (x : Binary64) (exponent : Int) : Option Binary64 := do
  if 0 ≤ exponent then
    if exponent ≤ maxPowerOfTen then x.mul? (← Binary64.powerOfTen? exponent.toNat)
    else if x.isZero then return x
    else none
  else
    let places := (-exponent).toNat
    let steps := (places - 1) / maxPowerOfTen
    let rest := places - steps * maxPowerOfTen
    let y ← divideSteps x (min steps 4)
    if y.isZero then return y
    y.div? (← Binary64.powerOfTen? rest)

/-- The number with a sign. -/
def withSign (negative : Bool) (x : Binary64) : JsonNumber :=
  .double (if negative then x.neg else x)

/-- The number of a sign, the digits before and after the point and an exponent of ten; `exact`
when neither point nor exponent is written. None if the number is out of range. -/
def numberOf? (negative exact : Bool) (integer fraction : List Char) (exponent : Int) :
    Option JsonNumber :=
  let head := takeDigits 0 integer
  if exact && head.ignored = 0 then
    if negative then
      if 0 < head.word && head.word ≤ wordLimit / 2 then some (.negative head.word)
      else some (withSign true (.ofNat head.word))
    else some (.natural head.word)
  else
    let run := takeDigits head.word fraction
    let exponent := exponent + head.ignored - run.taken
    (scaleByTen (.ofNat run.word) exponent).map (withSign negative)

/-! ### Texts -/

/-- The nesting at which lists and objects are no longer read. -/
def nestingLimit : Nat := 128

/-- A tree, and the text after it unless the text breaks off inside. -/
abbrev Reading (α : Type) := α × Option (List Symbol)

/-- Whether a symbol is a blank of JSON. -/
def isBlank : Symbol → Bool
  | .char c => c == ' ' || c == '\n' || c == '\r' || c == '\t'
  | .stray _ => false

/-- The text from its first symbol that is no blank. -/
def skipBlanks (text : List Symbol) : List Symbol := text.dropWhile isBlank

/-! ### Strings -/

/-- What a string is made of. -/
inductive Piece where
  | char (c : Char)
  | stray
  /-- A 16-bit unit given in hexadecimal. -/
  | unit (n : Nat)

/-- The value of a hexadecimal digit. -/
def hexValue? : Symbol → Option Nat
  | .char c =>
    if '0' ≤ c && c ≤ '9' then some (c.toNat - 48)
    else if 'a' ≤ c && c ≤ 'f' then some (c.toNat - 87)
    else if 'A' ≤ c && c ≤ 'F' then some (c.toNat - 55)
    else none
  | .stray _ => none

/-- The number of four hexadecimal digits. -/
def hexUnit? (a b c d : Symbol) : Option Nat := do
  return (((← hexValue? a) * 16 + (← hexValue? b)) * 16 + (← hexValue? c)) * 16 + (← hexValue? d)

/-- What a backslash and the given character stand for. -/
def escaped? (c : Char) : Option Char :=
  match c with
  | '"' => some '"'
  | '\\' => some '\\'
  | '/' => some '/'
  | 'b' => some '\x08'
  | 'f' => some '\x0c'
  | 'n' => some '\n'
  | 'r' => some '\r'
  | 't' => some '\t'
  | _ => none

/-- The fault of a hexadecimal escape that is cut short or misspelt; cut short it is only if
fewer than four bytes are left. -/
def hexFault (text : List Symbol) : Fault :=
  if ((text.take 4).map Utf8.width).foldl (· + ·) 0 < 4 then .endInString else .invalidHexEscape

/-- Cuts a string into its pieces, up to and without the closing quote; the text after the quote,
or the fault at which the string breaks off. -/
def stringPieces : List Symbol → List Piece × Except Fault (List Symbol)
  | [] => ([], .error .endInString)
  | .stray _ :: rest =>
    let (pieces, outcome) := stringPieces rest
    (.stray :: pieces, outcome)
  | .char '"' :: rest => ([], .ok rest)
  | [.char '\\'] => ([], .error .endInString)
  | .char '\\' :: .stray _ :: _ => ([], .error .invalidEscape)
  | .char '\\' :: .char 'u' :: a :: b :: c :: d :: rest =>
    match hexUnit? a b c d with
    | some n =>
      let (pieces, outcome) := stringPieces rest
      (.unit n :: pieces, outcome)
    | none => ([], .error (hexFault [a, b, c, d]))
  | .char '\\' :: .char 'u' :: rest => ([], .error (hexFault rest))
  | .char '\\' :: .char c :: rest =>
    match escaped? c with
    | some x =>
      let (pieces, outcome) := stringPieces rest
      (.char x :: pieces, outcome)
    | none => ([], .error .invalidEscape)
  | .char c :: rest =>
    if c < ' ' then ([], .error .controlCharacter)
    else
      let (pieces, outcome) := stringPieces rest
      (.char c :: pieces, outcome)

/-- Whether a 16-bit unit is the first half of a pair. -/
def isLeading (n : Nat) : Bool := 0xd800 ≤ n && n < 0xdc00

/-- Whether a 16-bit unit is the second half of a pair. -/
def isTrailing (n : Nat) : Bool := 0xdc00 ≤ n && n < 0xe000

/-- The character of a pair of 16-bit units. -/
def pairChar (high low : Nat) : Char :=
  .ofNat ((high - 0xd800) * 0x400 + (low - 0xdc00) + 0x10000)

/-- The fault of a first half without its second, at the end of the pieces. -/
def surrogateFault : Option Fault → Fault
  | some .endInString => .endInString
  | some .invalidHexEscape => .invalidHexEscape
  | _ => .unfinishedSurrogate

/-- The characters of some pieces, with whether stray bytes were among them; `broken` is the
fault at which the string breaks off after them, if it does. -/
def pieceChars (broken : Option Fault) : List Piece → Except Fault (List Char × Bool)
  | [] => match broken with
    | some fault => .error fault
    | none => .ok ([], false)
  | .char c :: rest => do
    let (chars, stray) ← pieceChars broken rest
    return (c :: chars, stray)
  | .stray :: rest => do
    let (chars, _) ← pieceChars broken rest
    return (chars, true)
  | .unit high :: .unit low :: rest =>
    if isTrailing high then .error .loneSurrogate
    else if isLeading high then
      if isTrailing low then do
        let (chars, stray) ← pieceChars broken rest
        return (pairChar high low :: chars, stray)
      else .error .loneSurrogate
    else do
      let (chars, stray) ← pieceChars broken (.unit low :: rest)
      return (.ofNat high :: chars, stray)
  | .unit n :: rest =>
    if isTrailing n then .error .loneSurrogate
    else if isLeading n then
      match rest with
      | [] => .error (surrogateFault broken)
      | _ :: _ => .error .unfinishedSurrogate
    else do
      let (chars, stray) ← pieceChars broken rest
      return (.ofNat n :: chars, stray)

/-- The text of some pieces; stray bytes are a fault once all else is in order. -/
def pieceText (broken : Option Fault) (pieces : List Piece) : Except Fault String := do
  let (chars, stray) ← pieceChars broken pieces
  if stray then throw .invalidUnicode
  return .ofList chars

/-- Reads the string whose opening quote has been taken. -/
def readString (text : List Symbol) : Reading Name :=
  match stringPieces text with
  | (pieces, .ok rest) =>
    match pieceText none pieces with
    | .ok s => (.text s, some rest)
    | .error fault => (.faulty fault none, some rest)
  | (pieces, .error broken) =>
    match pieceText (some broken) pieces with
    | .ok _ => (.faulty broken (some broken), none)
    | .error fault => (.faulty fault (some broken), none)

/-! ### Numbers and words -/

/-- Whether a symbol is a digit. -/
def isDigit : Symbol → Bool
  | .char c => Decimal.isDigit c
  | .stray _ => false

/-- The leading digits of a text and what follows them. -/
def leadingDigits : List Symbol → List Char × List Symbol
  | .char c :: rest =>
    if Decimal.isDigit c then
      let (digits, rest) := leadingDigits rest
      (c :: digits, rest)
    else ([], .char c :: rest)
  | text => ([], text)

/-- A literal that breaks the rules where the given text stands. At the end of the text a reader
reports that it ended, and one who passes over it that the number is invalid. -/
def brokenNumber (text : List Symbol) : Reading Node :=
  (.badLiteral (if text.isEmpty then .endInValue else .invalidNumber) (some .invalidNumber), none)

/-- Reads an exponent after its mark: its value and what follows. -/
def readExponent? (text : List Symbol) : Except (List Symbol) (Int × List Symbol) :=
  let (negative, text) := match text with
    | .char '-' :: rest => (true, rest)
    | .char '+' :: rest => (false, rest)
    | _ => (false, text)
  match leadingDigits text with
  | ([], rest) => .error rest
  | (digits, rest) =>
    let n : Int := Decimal.value digits
    .ok (if negative then -n else n, rest)

/-- The node of a number, faulty if it is out of range. -/
def numberNode : Option JsonNumber → Node
  | some n => .number n
  | none => .badLiteral .numberOutOfRange none

/-- Reads the rest of a number after its integer digits. -/
def readNumberTail (negative : Bool) (integer : List Char) (text : List Symbol) : Reading Node :=
  let withExponent (fraction : List Char) (rest : List Symbol) : Reading Node :=
    match readExponent? rest with
    | .ok (exponent, rest) =>
      (numberNode (numberOf? negative false integer fraction exponent), some rest)
    | .error rest => brokenNumber rest
  match text with
  | .char '.' :: rest =>
    match leadingDigits rest with
    | ([], rest) => brokenNumber rest
    | (fraction, .char 'e' :: rest) => withExponent fraction rest
    | (fraction, .char 'E' :: rest) => withExponent fraction rest
    | (fraction, rest) => (numberNode (numberOf? negative false integer fraction 0), some rest)
  | .char 'e' :: rest => withExponent [] rest
  | .char 'E' :: rest => withExponent [] rest
  | rest => (numberNode (numberOf? negative true integer [] 0), some rest)

/-- Reads a number whose sign has been taken; a leading zero stands alone. -/
def readNumber (negative : Bool) (text : List Symbol) : Reading Node :=
  match leadingDigits text with
  | ([], rest) => brokenNumber rest
  | ('0' :: _ :: _, rest) => brokenNumber (.stray 0 :: rest)
  | (integer, rest) => readNumberTail negative integer rest

/-- Reads the letters of a word after its first one. -/
def readWord (value : Node) : List Char → List Symbol → Reading Node
  | [], rest => (value, some rest)
  | _ :: _, [] => (.badLiteral .endInValue (some .endInValue), none)
  | c :: letters, s :: rest =>
    if s = .char c then readWord value letters rest
    else (.badLiteral .wordExpected (some .wordExpected), none)

/-! ### Values -/

/-- No value stands here. -/
def noValue (fault : Fault) : Reading Node := (.unreadable fault (some fault), none)

/-- A list or object at a nesting; at the limit it is buried. -/
def atNesting (nesting : Nat) (value : Node) : Node :=
  if nesting < nestingLimit then value else .buried value

/-- The ending where the text is over. -/
def endingInList : Ending := .broken .endInList .endInList .endInList

/-- The ending where the text is over. -/
def endingInObject : Ending := .broken .endInObject .endInObject .endInObject

mutual

/-- Reads a value that stands at a nesting. -/
def readValue (fuel nesting : Nat) (text : List Symbol) : Reading Node :=
  match fuel with
  | 0 => noValue .endInValue
  | fuel + 1 =>
    match skipBlanks text with
    | [] => noValue .endInValue
    | .char 'n' :: rest => readWord .null ['u', 'l', 'l'] rest
    | .char 't' :: rest => readWord (.bool true) ['r', 'u', 'e'] rest
    | .char 'f' :: rest => readWord (.bool false) ['a', 'l', 's', 'e'] rest
    | .char '-' :: rest => readNumber true rest
    | .char '"' :: rest =>
      match readString rest with
      | (.text s, rest) => (.string s, rest)
      | (.faulty read pass, rest) => (.unreadable read pass, rest)
    | .char '[' :: rest =>
      let ((items, ending), rest) := readItems fuel (nesting + 1) rest
      (atNesting nesting (.array items ending), rest)
    | .char '{' :: rest =>
      let ((entries, ending), rest) := readEntries fuel (nesting + 1) rest
      (atNesting nesting (.object entries ending), rest)
    | s :: rest => if isDigit s then readNumber false (s :: rest) else noValue .valueExpected

/-- Reads the items after an opening bracket. -/
def readItems (fuel nesting : Nat) (text : List Symbol) : Reading (List Node × Ending) :=
  match fuel with
  | 0 => (([], endingInList), none)
  | fuel + 1 =>
    match skipBlanks text with
    | [] => (([], endingInList), none)
    | .char ']' :: rest => (([], .closed), some rest)
    | rest => readItem fuel nesting rest

/-- Reads an item and those after it. -/
def readItem (fuel nesting : Nat) (text : List Symbol) : Reading (List Node × Ending) :=
  match fuel with
  | 0 => (([], endingInList), none)
  | fuel + 1 =>
    match readValue fuel nesting text with
    | (item, none) => (([item], .closed), none)
    | (item, some rest) =>
      match skipBlanks rest with
      | [] => (([item], endingInList), none)
      | .char ']' :: rest => (([item], .closed), some rest)
      | .char ',' :: rest =>
        match skipBlanks rest with
        | [] => (([item], .broken .endInValue .trailingCharacters .endInValue), none)
        | .char ']' :: _ =>
          (([item], .broken .trailingComma .trailingComma .valueExpected), none)
        | rest =>
          let ((items, ending), rest) := readItem fuel nesting rest
          ((item :: items, ending), rest)
      | _ =>
        (([item], .broken .listCommaExpected .trailingCharacters .listCommaExpected), none)

/-- Reads the entries after an opening brace. -/
def readEntries (fuel nesting : Nat) (text : List Symbol) :
    Reading (List (Name × Node) × Ending) :=
  match fuel with
  | 0 => (([], endingInObject), none)
  | fuel + 1 =>
    match skipBlanks text with
    | [] => (([], endingInObject), none)
    | .char '}' :: rest => (([], .closed), some rest)
    | .char '"' :: rest => readEntry fuel nesting rest
    | rest =>
      (([(.faulty .keyExpected (some .keyExpected), (readValue fuel nesting rest).1)], .closed),
        none)

/-- Reads an entry, whose opening quote has been taken, and those after it. -/
def readEntry (fuel nesting : Nat) (text : List Symbol) :
    Reading (List (Name × Node) × Ending) :=
  match fuel with
  | 0 => (([], endingInObject), none)
  | fuel + 1 =>
    match readString text with
    | (key, none) => (([(key, .null)], .closed), none)
    | (key, some rest) =>
      match readAfterColon fuel nesting rest with
      | (value, none) => (([(key, value)], .closed), none)
      | (value, some rest) =>
        match skipBlanks rest with
        | [] => (([(key, value)], endingInObject), none)
        | .char '}' :: rest => (([(key, value)], .closed), some rest)
        | .char ',' :: rest =>
          match skipBlanks rest with
          | [] => (([(key, value)], .broken .endInValue .valueExpected .endInObject), none)
          | .char '"' :: rest =>
            let ((entries, ending), rest) := readEntry fuel nesting rest
            (((key, value) :: entries, ending), rest)
          | .char '}' :: _ =>
            (([(key, value)], .broken .trailingComma .valueExpected .keyExpected), none)
          | _ => (([(key, value)], .broken .keyExpected .valueExpected .keyExpected), none)
        | _ =>
          (([(key, value)],
            .broken .objectCommaExpected .valueExpected .objectCommaExpected), none)

/-- Reads the colon of an entry and its value. -/
def readAfterColon (fuel nesting : Nat) (text : List Symbol) : Reading Node :=
  match fuel with
  | 0 => noValue .endInObject
  | fuel + 1 =>
    match skipBlanks text with
    | [] => noValue .endInObject
    | .char ':' :: rest => readValue fuel nesting rest
    | _ => noValue .colonExpected

end

/-- A whole text: its value, and whether anything but blanks follows. -/
structure Source where
  root : Node
  trailing : Bool
  deriving Repr, Inhabited

/-- Reads the symbols of a whole text. -/
def readSymbols (text : List Symbol) : Source :=
  match readValue (3 * text.length + 3) 1 text with
  | (root, some rest) => ⟨root, !(skipBlanks rest).isEmpty⟩
  | (root, none) => ⟨root, false⟩

/-- Reads a whole text. -/
def readText (text : String) : Source := readSymbols (Utf8.ofText text)

/-- Reads the bytes of a whole text. -/
def readBytes (bytes : List UInt8) : Source := readSymbols (Utf8.decode bytes)

end Questionnaire.Json
