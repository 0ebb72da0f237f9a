/-! # Bytes as text

`Utf8.decode` turns any bytes into symbols: the characters of the well-formed sequences, and as
`stray` every byte that belongs to none. A reader can so go on past bytes that are no text and
report them only where the text matters. -/

namespace Questionnaire

/-- A character, or a byte that belongs to no well-formed sequence. -/
inductive Symbol where
  | char (c : Char)
  | stray (byte : UInt8)
  deriving DecidableEq, Repr

namespace Utf8

/-- The symbols of a text, which are all characters. -/
def ofText (text : String) : List Symbol := text.toList.map .char

/-- How many bytes a symbol takes. -/
def width : Symbol → Nat
  | .char c => c.utf8Size
  | .stray _ => 1

/-- The six bits of a continuation byte. -/
def tail? (byte : UInt8) : Option Nat :=
  if 0x80 ≤ byte && byte < 0xc0 then some (byte.toNat - 0x80) else none

/-- The character of a code point that needs at least the given size and is no surrogate. -/
def char? (least n : Nat) : Option Char :=
  if least ≤ n && n < 0x110000 && !(0xd800 ≤ n && n < 0xe000) then some (.ofNat n) else none

/-- The character of a two-byte sequence. -/
def pair? (a b : UInt8) : Option Char := do
  if 0xc0 ≤ a && a < 0xe0 then char? 0x80 ((a.toNat - 0xc0) * 64 + (← tail? b)) else none

/-- The character of a three-byte sequence. -/
def triple? (a b c : UInt8) : Option Char := do
  if 0xe0 ≤ a && a < 0xf0 then
    char? 0x800 (((a.toNat - 0xe0) * 64 + (← tail? b)) * 64 + (← tail? c))
  else none

/-- The character of a four-byte sequence. -/
def quadruple? (a b c d : UInt8) : Option Char := do
  if 0xf0 ≤ a && a < 0xf8 then
    char? 0x10000
      ((((a.toNat - 0xf0) * 64 + (← tail? b)) * 64 + (← tail? c)) * 64 + (← tail? d))
  else none

/-- Reads bytes into symbols, from the left. -/
def decode : List UInt8 → List Symbol
  | [] => []
  | [a] => [if a < 0x80 then .char (.ofNat a.toNat) else .stray a]
  | [a, b] =>
    if a < 0x80 then .char (.ofNat a.toNat) :: decode [b]
    else match pair? a b with
      | some x => [.char x]
      | none => .stray a :: decode [b]
  | [a, b, c] =>
    if a < 0x80 then .char (.ofNat a.toNat) :: decode [b, c]
    else match pair? a b, triple? a b c with
      | some x, _ => .char x :: decode [c]
      | none, some x => [.char x]
      | none, none => .stray a :: decode [b, c]
  | a :: b :: c :: d :: rest =>
    if a < 0x80 then .char (.ofNat a.toNat) :: decode (b :: c :: d :: rest)
    else match pair? a b, triple? a b c, quadruple? a b c d with
      | some x, _, _ => .char x :: decode (c :: d :: rest)
      | none, some x, _ => .char x :: decode (d :: rest)
      | none, none, some x => .char x :: decode rest
      | none, none, none => .stray a :: decode (b :: c :: d :: rest)

end Utf8

end Questionnaire
