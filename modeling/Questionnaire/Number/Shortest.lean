import Questionnaire.Number.Binary64
import Questionnaire.Text.Decimal

/-! # The shortest decimal of a binary64 number

`Binary64.shortest` finds the fewest digits that read back as the number and, among the
decimals with so few, the one nearest to it. It tests the number's two neighbours on the grids
of 1, 2, … 17 digits and takes the first that lies in the interval of reals rounding to the
number, all in exact arithmetic.

Two layouts write these digits. `Binary64.plainText` never uses an exponent and leaves out an
empty fraction; `Binary64.jsonText` keeps `.0` on integers and turns to an exponent below
`10 ^ -5` and from `10 ^ 16` on. -/

namespace Questionnaire

/-- The number `digits · 10 ^ exponent`. -/
structure DecimalFloat where
  digits : Nat
  exponent : Int
  deriving DecidableEq, Repr

/-- Where a number half-way between two neighbouring decimals goes. -/
inductive Halfway where
  /-- To the one further from zero. -/
  | up
  /-- To the one whose last digit is even. -/
  | even
  deriving DecidableEq, Repr

/-- The one of `below` and `below + 1` that stands for the point half-way between them. -/
def Halfway.choose (below : Nat) : Halfway → Nat
  | .up => below + 1
  | .even => if below % 2 = 0 then below else below + 1

namespace Binary64

/-- How many decimal digits a natural has. -/
def digitCount (n : Nat) : Nat := (Decimal.print n).length

/-- The exponent of the leading decimal digit of `num / den`, both positive. -/
def leadingExponent (num den : Nat) : Int :=
  if den ≤ num then (digitCount (num / den) : Int) - 1
  else -(digitCount ((den + num - 1) / num - 1) : Int)

/-- The reals that round to a positive number, in quarters of its last place. -/
structure RoundingInterval where
  lower : Nat
  center : Nat
  upper : Nat
  /-- Whether the two ends themselves round to the number. -/
  closed : Bool
  /-- The exponent of a quarter of the last place. -/
  exponent : Int

/-- The rounding interval of a number; below a power of two it is only half as wide. -/
def roundingInterval (x : Binary64) : RoundingInterval where
  lower := 4 * x.significand
    - (if x.significand = significandLimit / 2 && minExponent < x.exponent then 1 else 2)
  center := 4 * x.significand
  upper := 4 * x.significand + 2
  closed := x.significand % 2 = 0
  exponent := x.exponent - 2

/-- The point of the grid `10 ^ unit` that stands for a number with the given interval: a
neighbour of the center inside the interval, the nearer of two. -/
def gridPoint? (tie : Halfway) (interval : RoundingInterval) (unit : Int) : Option Nat :=
  let grid := Nat.pow 10 unit.toNat * scaleDown interval.exponent
  let scale := Nat.pow 10 (-unit).toNat * scaleUp interval.exponent
  let below := interval.center * scale / grid
  let fits (point : Nat) : Bool :=
    if interval.closed then
      interval.lower * scale ≤ point * grid && point * grid ≤ interval.upper * scale
    else interval.lower * scale < point * grid && point * grid < interval.upper * scale
  match fits below, fits (below + 1) with
  | true, true =>
    let twice := 2 * interval.center * scale
    let middle := (2 * below + 1) * grid
    if twice < middle then some below
    else if middle < twice then some (below + 1)
    else some (tie.choose below)
  | true, false => some below
  | false, true => some (below + 1)
  | false, false => none

/-- Takes trailing zeros from the digits into the exponent, at most `fuel` of them. -/
def stripZeros (fuel : Nat) (d : DecimalFloat) : DecimalFloat :=
  match fuel with
  | 0 => d
  | fuel + 1 =>
    if d.digits % 10 = 0 && d.digits != 0 then
      stripZeros fuel ⟨d.digits / 10, d.exponent + 1⟩
    else d

/-- The shortest decimal that rounds to the number's absolute value. -/
def shortest (tie : Halfway) (x : Binary64) : DecimalFloat :=
  if x.isZero then ⟨0, 0⟩
  else
    let lead := leadingExponent x.num x.den
    let interval := x.roundingInterval
    let candidates := (List.range 17).filterMap fun (n : Nat) =>
      let unit := lead - (n : Int)
      (gridPoint? tie interval unit).map fun point => stripZeros 17 ⟨point, unit⟩
    candidates.headD ⟨x.significand, 0⟩

/-- The sign of a number, written only if it is negative. -/
def signText (x : Binary64) : List Char := if x.negative then ['-'] else []

/-- The digits with the decimal point at its place; an integer has no fraction. -/
def positional (d : DecimalFloat) : List Char :=
  let digits := Decimal.print d.digits
  if 0 ≤ d.exponent then digits ++ List.replicate d.exponent.toNat '0'
  else
    let places := (-d.exponent).toNat
    if digits.length ≤ places then
      '0' :: '.' :: (List.replicate (places - digits.length) '0' ++ digits)
    else
      digits.take (digits.length - places) ++ '.' :: digits.drop (digits.length - places)

/-- The digits with the point after the first one, and the exponent with its sign. -/
def scientific (d : DecimalFloat) : List Char :=
  let digits := Decimal.print d.digits
  let exponent := d.exponent + (digits.length - 1 : Nat)
  let mantissa := match digits with
    | [] => []
    | [c] => [c]
    | c :: rest => c :: '.' :: rest
  let sign := if exponent < 0 then '-' else '+'
  mantissa ++ 'e' :: sign :: Decimal.print exponent.natAbs

/-- The number in positional notation, as messages show it. -/
def plainText (x : Binary64) : List Char := x.signText ++ positional (x.shortest .up)

/-- The number as JSON texts show it. -/
def jsonText (x : Binary64) : List Char :=
  let d := x.shortest .even
  let lead := d.exponent + (digitCount d.digits - 1 : Nat)
  x.signText ++
    if lead < -5 || 16 ≤ lead then scientific d
    else if 0 ≤ d.exponent then positional d ++ ['.', '0'] else positional d

end Binary64

end Questionnaire
