import Questionnaire.Text.Blank
import Questionnaire.Text.Lowercase

/-! # Sets of characters

A `CharSet` is what one character of a text is tried against: ranges, put together by the
operations that a class of a pattern offers. `CharSet.contains` decides membership. -/

namespace Questionnaire.Pattern

/-- A set of characters. -/
inductive CharSet where
  | empty
  | range (first last : Char)
  /-- The characters of some ranges of code points. -/
  | listed (ranges : List (Nat × Nat))
  /-- The first and every second character after it, of some ranges of code points. -/
  | alternating (ranges : List (Nat × Nat))
  /-- The characters with the property White_Space. -/
  | blanks
  | union (a b : CharSet)
  | inter (a b : CharSet)
  | complement (a : CharSet)
  /-- Every character that differs at most in case from one of the set. -/
  | anyCase (a : CharSet)

namespace CharSet

/-- Whether a character belongs to the set. -/
def contains : CharSet → Char → Bool
  | empty, _ => false
  | range first last, c => first ≤ c && c ≤ last
  | listed ranges, c => Text.inRanges ranges c
  | alternating ranges, c => Text.inRanges (ranges.filter (·.1 % 2 == c.toNat % 2)) c
  | blanks, c => Text.isBlank c
  | union a b, c => a.contains c || b.contains c
  | inter a b, c => a.contains c && b.contains c
  | complement a, c => !a.contains c
  | anyCase a, c => a.contains c || (Text.caseForms c).any a.contains

/-- The set of one character. -/
def single (c : Char) : CharSet := range c c

/-- The members of the first set that the second one lacks. -/
def diff (a b : CharSet) : CharSet := inter a (complement b)

/-- The members of exactly one of the two sets. -/
def symmDiff (a b : CharSet) : CharSet := union (diff a b) (diff b a)

/-- The set, or the set of all forms of its letters if case does not matter. -/
def folded (ignoreCase : Bool) (a : CharSet) : CharSet := if ignoreCase then anyCase a else a

/-- The union of some ranges. -/
def ofRanges : List (Char × Char) → CharSet
  | [] => empty
  | (first, last) :: rest => union (range first last) (ofRanges rest)

/-- How many ranges the set is made of. -/
def size : CharSet → Nat
  | empty => 0
  | range _ _ => 1
  | listed ranges | alternating ranges => ranges.length
  | blanks => 10
  | union a b | inter a b => a.size + b.size
  | complement a => a.size + 1
  | anyCase a => 2 * a.size

/-- The sets that have a name of their own inside a class. -/
def named : List (String × List (Char × Char)) := [
  ("alnum", [('0', '9'), ('A', 'Z'), ('a', 'z')]),
  ("alpha", [('A', 'Z'), ('a', 'z')]),
  ("ascii", [('\x00', '\x7f')]),
  ("blank", [('\t', '\t'), (' ', ' ')]),
  ("cntrl", [('\x00', '\x1f'), ('\x7f', '\x7f')]),
  ("digit", [('0', '9')]),
  ("graph", [('!', '~')]),
  ("lower", [('a', 'z')]),
  ("print", [(' ', '~')]),
  ("punct", [('!', '/'), (':', '@'), ('[', '`'), ('{', '~')]),
  ("space", [('\t', '\r'), (' ', ' ')]),
  ("upper", [('A', 'Z')]),
  ("word", [('0', '9'), ('A', 'Z'), ('_', '_'), ('a', 'z')]),
  ("xdigit", [('0', '9'), ('A', 'F'), ('a', 'f')])]

/-- The set with the name. -/
def named? (name : List Char) : Option CharSet :=
  (named.lookup (.ofList name)).map ofRanges

@[simp] theorem contains_single (c d : Char) : (single c).contains d = (c == d) := by
  by_cases h : c = d
  · simp [single, contains, h]
  · have differs : ¬(c ≤ d ∧ d ≤ c) := fun ⟨le, ge⟩ => h (Char.le_antisymm le ge)
    rw [beq_eq_false_iff_ne.2 h]
    simpa only [single, contains, ← Bool.decide_and, decide_eq_false_iff_not] using differs

@[simp] theorem contains_diff (a b : CharSet) (c : Char) :
    (diff a b).contains c = (a.contains c && !b.contains c) := rfl

end CharSet

end Questionnaire.Pattern
