import Questionnaire.Pattern.Node
import Questionnaire.Text.Literal
import Questionnaire.Text.WordTable

/-! # Matching without coming back

A pattern that is not hard takes a set of places in a text to the set of places where a match that
begins at one of them may end (`Node.reach`). The work is bounded by the product of the sizes
of pattern and text, whatever the pattern repeats. -/

namespace Questionnaire.Pattern

/-- The character before a place. -/
def charBefore (text : Array Char) (place : Nat) : Option Char :=
  match place with
  | 0 => none
  | place + 1 => text[place]?

/-- Whether there is a word character. -/
def isWordChar (c : Option Char) : Bool := c.any (Text.inRanges Text.wordRanges)

/-- Whether a condition holds at a place. -/
def Assertion.holds (text : Array Char) (place : Nat) : Assertion → Bool
  | textStart => place == 0
  | textEnd => place == text.size
  | lineStart => place == 0 || charBefore text place == some '\n'
  | lineEnd => place == text.size || text[place]? == some '\n'
  | wordStart => !isWordChar (charBefore text place) && isWordChar text[place]?
  | wordEnd => isWordChar (charBefore text place) && !isWordChar text[place]?

/-- Takes a step some times, as long as there is a place left. -/
def times (step : List Nat → List Nat) : Nat → List Nat → List Nat
  | 0, places => places
  | n + 1, places => if places.isEmpty then [] else times step n (step places)

/-- The places `seen` and those that at most `n` more steps lead to; `latest` are the places that
have not been left yet. -/
def spread (step : List Nat → List Nat) : (n : Nat) → (seen latest : List Nat) → List Nat
  | 0, seen, _ => seen
  | n + 1, seen, latest =>
    match (step latest).filter (!seen.contains ·) with
    | [] => seen
    | new => spread step n (seen ++ new) new

/-- The places that `least` to `most` steps lead to. -/
def repeatStep (text : Array Char) (step : List Nat → List Nat) (least : Nat) (most : Option Nat)
    (places : List Nat) : List Nat :=
  let start := times step least places
  let more := match most with
    | none => text.size + 1
    | some most => min (most - least) (text.size + 1)
  spread step more start start

/-- The place after a place whose character belongs to the set. -/
def stepOver (text : Array Char) (set : CharSet) (place : Nat) : Option Nat :=
  if text[place]?.any set.contains then some (place + 1) else none

/-- The places of two lists, each once. -/
def unite (a b : List Nat) : List Nat := a ++ b.filter (!a.contains ·)

namespace Node

mutual

/-- Where matches that begin at some places may end; a hard pattern has none. -/
def reach (text : Array Char) : Node → List Nat → List Nat
  | empty, places => places
  | char set, places => places.filterMap (stepOver text set)
  | assertion kind, places => places.filter fun place => kind.holds text place
  | seq nodes, places => reachRow text nodes places
  | alt nodes, places => reachAny text nodes places
  | group _ node, places => node.reach text places
  | repetition node least most _, places => repeatStep text (node.reach text) least most places
  | _, _ => []

/-- Where matches of patterns in a row may end. -/
def reachRow (text : Array Char) : List Node → List Nat → List Nat
  | [], places => places
  | node :: rest, places => reachRow text rest (node.reach text places)

/-- Where matches of one of some patterns may end. -/
def reachAny (text : Array Char) : List Node → List Nat → List Nat
  | [], _ => []
  | node :: rest, places => unite (node.reach text places) (reachAny text rest places)

end

/-- Whether the pattern matches somewhere in the text. -/
def foundIn (text : Array Char) (node : Node) : Bool :=
  !(node.reach text (List.range (text.size + 1))).isEmpty

end Node

end Questionnaire.Pattern
