import Questionnaire.Text.Decimal

/-! # Finite binary64 numbers

A `Binary64` is a sign and an exact value `significand · 2 ^ exponent`, in the one normal form
that the format has for it. Every operation computes an exact quotient of naturals and rounds it
once (`Binary64.ofRatio?`): to the nearest value of the format, a tie to the even significand.
Values beyond the format's range are refused rather than turned into an infinity.

`Numeral.parse` cuts a text such as `-12.5e3` into its parts and `Numeral.nearest?` gives the
binary64 number nearest to it, rounded once. `readNumber?` is the reading of a typed answer: a
whole numeral with an optional sign, where one side of the point may be empty. -/

namespace Questionnaire

/-- A finite number of the binary64 format; zero has a sign. -/
structure Binary64 where
  negative : Bool
  significand : Nat
  exponent : Int
  deriving DecidableEq, Repr, Inhabited

namespace Binary64

/-- How many significands the format has, the implicit bit counted. -/
def significandLimit : Nat := Nat.pow 2 53

/-- The exponent of the smallest numbers. -/
def minExponent : Int := -1074

/-- The exponent of the largest numbers. -/
def maxExponent : Int := 971

/-- The zero of a sign. -/
def zero (negative : Bool) : Binary64 := ⟨negative, 0, minExponent⟩

/-- Whether the number is one of the two zeros. -/
def isZero (x : Binary64) : Bool := x.significand == 0

/-- The power of two of an exponent that is not negative, else one. -/
def scaleUp (exponent : Int) : Nat := Nat.pow 2 exponent.toNat

/-- The power of two by which a negative exponent divides, else one. -/
def scaleDown (exponent : Int) : Nat := Nat.pow 2 (-exponent).toNat

/-- The nearest natural to `num / den`, a tie to the even one. -/
def roundToEven (num den : Nat) : Nat :=
  let q := num / den
  let r := num % den
  if 2 * r < den then q
  else if den < 2 * r then q + 1
  else if q % 2 = 0 then q else q + 1

/-- The exponent at which `num / den` has 53 significant bits, or the least one. -/
def exponentFor (num den : Nat) : Int :=
  let guess : Int := (num.log2 : Int) - (den.log2 : Int) - 52
  let scaled := num * scaleDown guess / (den * scaleUp guess)
  max minExponent (if scaled < Nat.pow 2 52 then guess - 1 else guess)

/-- The number of the format nearest to `num / den`; none if that is beyond its range. -/
def ofRatio? (negative : Bool) (num den : Nat) : Option Binary64 :=
  if num = 0 then some (zero negative)
  else
    let exponent := exponentFor num den
    let significand := roundToEven (num * scaleDown exponent) (den * scaleUp exponent)
    let rounded : Binary64 :=
      if significand = significandLimit then ⟨negative, significandLimit / 2, exponent + 1⟩
      else ⟨negative, significand, exponent⟩
    if maxExponent < rounded.exponent then none else some rounded

/-- The number nearest to a 64-bit natural. -/
def ofNat (n : Nat) : Binary64 := (ofRatio? false n 1).getD (zero false)

/-- The number with the opposite sign. -/
def neg (x : Binary64) : Binary64 := { x with negative := !x.negative }

/-- The numerator of the absolute value, over `x.den`. -/
def num (x : Binary64) : Nat := x.significand * scaleUp x.exponent

/-- The denominator of the absolute value. -/
def den (x : Binary64) : Nat := scaleDown x.exponent

/-- The rounded product; none if it is out of range. -/
def mul? (x y : Binary64) : Option Binary64 :=
  ofRatio? (x.negative != y.negative) (x.num * y.num) (x.den * y.den)

/-- The rounded quotient by a number that is not zero; none if it is out of range. -/
def div? (x y : Binary64) : Option Binary64 :=
  ofRatio? (x.negative != y.negative) (x.num * y.den) (x.den * y.num)

/-- The number nearest to a power of ten. -/
def powerOfTen? (n : Nat) : Option Binary64 := ofRatio? false (Nat.pow 10 n) 1

/-- The numerator with its sign, over `x.den`. -/
def signedNum (x : Binary64) : Int := if x.negative then -(x.num : Int) else x.num

/-- Comparison by value; the two zeros are equal. -/
def lt (x y : Binary64) : Bool := x.signedNum * y.den < y.signedNum * x.den

/-- The number `2 ^ shift` times as large is below the natural `n`, in exact arithmetic. -/
def shiftedBelow (x : Binary64) (shift : Nat) (n : Binary64) : Bool :=
  x.signedNum * Nat.pow 2 shift * n.den < n.signedNum * x.den

end Binary64

/-! ### Numerals -/

/-- A decimal numeral: its sign, its digits around the point and its exponent of ten. -/
structure Numeral where
  negative : Bool
  integer : List Char
  fraction : List Char
  exponent : Int
  deriving Repr

namespace Numeral

/-- A leading sign and what follows it. -/
def takeSign : List Char → Bool × List Char
  | '-' :: rest => (true, rest)
  | '+' :: rest => (false, rest)
  | rest => (false, rest)

/-- The leading digits and what follows them. -/
def takeDigits (text : List Char) : List Char × List Char :=
  (text.takeWhile Decimal.isDigit, text.dropWhile Decimal.isDigit)

/-- The digits after a point, if there is one, and what follows. -/
def takeFraction : List Char → List Char × List Char
  | '.' :: rest => takeDigits rest
  | rest => ([], rest)

/-- The whole text as an exponent: nothing, or a mark with a sign and digits. -/
def readExponent? : List Char → Option Int
  | [] => some 0
  | mark :: rest =>
    if mark = 'e' || mark = 'E' then
      let (negative, digits) := takeSign rest
      if digits.isEmpty || !digits.all Decimal.isDigit then none
      else
        let n : Int := Decimal.value digits
        some (if negative then -n else n)
    else none

/-- Reads a whole text as a numeral with at least one digit before the exponent. -/
def parse (text : List Char) : Option Numeral := do
  let (negative, rest) := takeSign text
  let (integer, rest) := takeDigits rest
  let (fraction, rest) := takeFraction rest
  if integer.isEmpty && fraction.isEmpty then none
  else
    let exponent ← readExponent? rest
    return { negative, integer, fraction, exponent }

/-- The number nearest to a numeral; none if it is out of range. Numerals whose leading digit
stands far outside the range are settled without computing their power of ten. -/
def nearest? (numeral : Numeral) : Option Binary64 :=
  let digits := numeral.integer ++ numeral.fraction
  let n := Decimal.value digits
  let exponent := numeral.exponent - numeral.fraction.length
  let lead := exponent + (Decimal.print n).length
  if n = 0 || lead < -400 then some (.zero numeral.negative)
  else if 400 < lead then none
  else Binary64.ofRatio? numeral.negative (n * Nat.pow 10 exponent.toNat)
    (Nat.pow 10 (-exponent).toNat)

end Numeral

/-- The finite number that a whole text spells. -/
def readNumber? (text : List Char) : Option Binary64 := do
  (← Numeral.parse text).nearest?

end Questionnaire
