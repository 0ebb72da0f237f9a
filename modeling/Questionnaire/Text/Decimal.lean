/-! # Natural numbers in words and in decimal

Numbers are kept in words, and adding one to the largest number of a word stops the program
(`successor`). `Decimal.print` writes a number without leading zeros, and `Decimal.read?` reads
exactly the texts so written whose number fits a 64-bit word. `Decimal.readLoose?` also takes a
plus sign and leading zeros, for numbers typed by a person. -/

namespace Questionnaire

/-! ### Words -/

/-- How many values a 64-bit word has; sizes, counts and coordinates lie below it. -/
def wordLimit : Nat := 18446744073709551616

/-- The stop of the program at a number that its word does not hold. -/
inductive Overflow where
  | addition
  deriving DecidableEq, Repr

/-- What the program writes when it stops. -/
def Overflow.message : Overflow → String
  | .addition => "attempt to add with overflow"

/-- The next number, in a word with so many values. -/
def successor (limit n : Nat) : Except Overflow Nat :=
  if n + 1 < limit then .ok (n + 1) else .error .addition

/-- Why an operation gives nothing back: it is refused, or it stops the program. -/
inductive Failure (ε : Type) where
  | refused (error : ε)
  | stopped (overflow : Overflow)
  deriving DecidableEq

/-- The failure with another account of a refusal. -/
def Failure.map {ε δ : Type} (f : ε → δ) : Failure ε → Failure δ
  | .refused error => .refused (f error)
  | .stopped overflow => .stopped overflow

/-! ### Decimals -/

namespace Decimal

/-- The digits of a number, most significant first. -/
def print (n : Nat) : List Char := Nat.toDigits 10 n

/-- Whether a character is one of `0` to `9`. -/
def isDigit (c : Char) : Bool := '0' ≤ c && c ≤ '9'

/-- The value of a digit. -/
def digitValue (c : Char) : Nat := c.toNat - '0'.toNat

/-- The number that a row of digits spells, whatever its leading zeros. -/
def value (digits : List Char) : Nat := digits.foldl (fun n c => 10 * n + digitValue c) 0

/-- The 64-bit number that a non-empty row of digits spells. -/
def ofDigits? (digits : List Char) : Option Nat :=
  if !digits.isEmpty && digits.all isDigit && value digits < wordLimit then
    some (value digits)
  else none

/-- Reads the canonical decimal of a 64-bit number: no sign and no leading zero. -/
def read? (text : List Char) : Option Nat :=
  match text with
  | '0' :: _ :: _ => none
  | _ => ofDigits? text

/-- Reads a 64-bit number with an optional plus sign and any leading zeros. -/
def readLoose? (text : List Char) : Option Nat :=
  match text with
  | '+' :: digits => ofDigits? digits
  | _ => ofDigits? text

end Decimal

end Questionnaire
