import Questionnaire.Text.CaseTable
import Questionnaire.Text.Literal

/-! # Lower case

`lowercase` maps every character to its lower-case form. Two characters need more than a table: the
dotted capital I becomes two characters, and the capital sigma becomes a final sigma at the end
of a word.

`foldChar` maps all forms of a letter to one of them, so two characters differ at most in case
if they have the same image. Besides the upper-case letters it maps the few further forms, such as
the final sigma and the long s. -/

namespace Questionnaire.Text

/-- The lower-case form of a character that has one of a single character, else itself. -/
def lowerChar (c : Char) : Char :=
  if c.toNat < 0x80 then
    if 'A' ≤ c && c ≤ 'Z' then .ofNat (c.toNat + 32) else c
  else
    match lowerRuns.find? fun (first, last, step, _) =>
        first ≤ c.toNat && c.toNat ≤ last && (c.toNat - first) % step = 0 with
    | some (_, _, _, distance) => .ofNat ((c.toNat : Int) + distance).toNat
    | none => c

/-- Whether the first character that is not case-ignorable has a case. -/
def startsCased (text : List Char) : Bool :=
  match text.dropWhile (inRanges caseIgnorableRanges) with
  | c :: _ => inRanges casedRanges c
  | [] => false

/-- The lower-case form of a character between the text before it, nearest first, and the text
after it. -/
def lowerIn (before : List Char) (c : Char) (after : List Char) : List Char :=
  if c = 'Σ' then
    [if startsCased before && !startsCased after then 'ς' else 'σ']
  else if c = 'İ' then ['i', '\u0307']
  else [lowerChar c]

/-- The lower-case forms of a text that follows `before`, which is given nearest first. -/
def lowerAfter (before : List Char) : List Char → List Char
  | [] => []
  | c :: rest => lowerIn before c rest ++ lowerAfter (c :: before) rest

/-- A text in lower case. -/
def lowercase (text : List Char) : List Char := lowerAfter [] text

/-! ### Letters that differ in case alone -/

/-- Forms of a letter that are no upper-case letters, with the usual form. -/
def furtherForms : List (Nat × Nat) :=
  [(0xb5, 0x3bc), (0x17f, 0x73), (0x345, 0x3b9), (0x3c2, 0x3c3), (0x3d0, 0x3b2), (0x3d1, 0x3b8),
   (0x3d5, 0x3c6), (0x3d6, 0x3c0), (0x3f0, 0x3ba), (0x3f1, 0x3c1), (0x3f5, 0x3b5),
   (0x1c80, 0x432), (0x1c81, 0x434), (0x1c82, 0x43e), (0x1c83, 0x441), (0x1c84, 0x442),
   (0x1c85, 0x442), (0x1c86, 0x44a), (0x1c87, 0x463), (0x1c88, 0xa64b), (0x1e9b, 0x1e61),
   (0x1fbe, 0x3b9), (0x1fd3, 0x390), (0x1fe3, 0x3b0), (0xfb05, 0xfb06)]

/-- The form that stands for all forms of a letter. -/
def foldChar (c : Char) : Char :=
  match furtherForms.lookup c.toNat with
  | some form => .ofNat form
  | none => lowerChar c

/-- The upper-case letters of a run whose lower-case form is the given one. -/
def upperInRun (form : Nat) (run : Nat × Nat × Nat × Int) : Option Char :=
  let (first, last, step, distance) := run
  let n := ((form : Int) - distance).toNat
  if first ≤ n && n ≤ last && (n - first) % step = 0 then some (.ofNat n) else none

/-- All forms of the letter that a character is a form of. -/
def caseForms (c : Char) : List Char :=
  let form := foldChar c
  form :: (lowerRuns.filterMap (upperInRun form.toNat)
    ++ furtherForms.filterMap fun (n, usual) =>
      if usual = form.toNat then some (.ofNat n) else none)

end Questionnaire.Text
