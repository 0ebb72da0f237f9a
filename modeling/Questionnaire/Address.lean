import Questionnaire.Text.Decimal

/-! # Addresses of groups, questions and answers

A field key is written `p0_s1_g2_q3_i4`: page, section, group, question and instance, each
zero-based and in canonical decimal. A group key stops after the group. `FieldKey.split?` reads
the field key that a longer key starts with, as the keys of sub-questions (`…_sub0`) and of the
free text beside a choice (`…_opt0`) do, and `FieldKey.parse` and `GroupKey.parse` accept
nothing beyond the key itself. Keys are ordered by their coordinates, so instance 2 comes
before instance 10. -/

namespace Questionnaire

/-- Why a text is no key. -/
inductive KeyError where
  | malformed (text : String)
  | malformedGroup (text : String)
  deriving DecidableEq, Repr

/-- What is reported about a text that is no key. -/
def KeyError.message : KeyError → String
  | .malformed text => s!"malformed field key '{text}'"
  | .malformedGroup text => s!"malformed group key '{text}'"

/-- The place of a group: its page, its section there and its position in the section. -/
structure GroupKey where
  pageIndex : Nat
  sectionIndex : Nat
  groupIndex : Nat
  deriving DecidableEq, Repr

/-- The place of a question: its group and its position in the group. -/
structure QuestionCoords where
  pageIndex : Nat
  sectionIndex : Nat
  groupIndex : Nat
  questionIndex : Nat
  deriving DecidableEq, Repr

/-- The place of one answer: a question at one instance of its group. -/
structure FieldKey where
  pageIndex : Nat
  sectionIndex : Nat
  groupIndex : Nat
  questionIndex : Nat
  instanceIndex : Nat
  deriving DecidableEq, Repr

/-! ### Relations between the three -/

/-- The question at a position of the group. -/
def GroupKey.question (group : GroupKey) (position : Nat) : QuestionCoords :=
  ⟨group.pageIndex, group.sectionIndex, group.groupIndex, position⟩

/-- The group of a question. -/
def QuestionCoords.groupKey (coords : QuestionCoords) : GroupKey :=
  ⟨coords.pageIndex, coords.sectionIndex, coords.groupIndex⟩

/-- The question's answer at one instance of its group. -/
def QuestionCoords.fieldKey (coords : QuestionCoords) (index : Nat) : FieldKey :=
  ⟨coords.pageIndex, coords.sectionIndex, coords.groupIndex, coords.questionIndex, index⟩

/-- The group of an answer. -/
def FieldKey.groupKey (key : FieldKey) : GroupKey :=
  ⟨key.pageIndex, key.sectionIndex, key.groupIndex⟩

/-- The question of an answer. -/
def FieldKey.coords (key : FieldKey) : QuestionCoords :=
  key.groupKey.question key.questionIndex

/-- The same question's answer at another instance. -/
def FieldKey.withInstance (key : FieldKey) (index : Nat) : FieldKey :=
  { key with instanceIndex := index }

/-- Whether an answer belongs to the group. -/
def GroupKey.contains (group : GroupKey) (key : FieldKey) : Bool := key.groupKey = group

@[simp] theorem QuestionCoords.coords_fieldKey (coords : QuestionCoords) (index : Nat) :
    (coords.fieldKey index).coords = coords := rfl

@[simp] theorem FieldKey.fieldKey_coords (key : FieldKey) :
    key.coords.fieldKey key.instanceIndex = key := rfl

/-! ### Order -/

/-- The coordinates of a group, outermost first. -/
def GroupKey.coordinates (group : GroupKey) : List Nat :=
  [group.pageIndex, group.sectionIndex, group.groupIndex]

/-- The coordinates of an answer, outermost first. -/
def FieldKey.coordinates (key : FieldKey) : List Nat :=
  [key.pageIndex, key.sectionIndex, key.groupIndex, key.questionIndex, key.instanceIndex]

theorem GroupKey.coordinates_inj {a b : GroupKey} (h : a.coordinates = b.coordinates) :
    a = b := by
  cases a; cases b; simp_all [coordinates]

theorem FieldKey.coordinates_inj {a b : FieldKey} (h : a.coordinates = b.coordinates) :
    a = b := by
  cases a; cases b; simp_all [coordinates]

instance : Ord GroupKey := ⟨compareOn GroupKey.coordinates⟩

instance : Ord FieldKey := ⟨compareOn FieldKey.coordinates⟩

instance : Std.TransOrd GroupKey :=
  inferInstanceAs (Std.TransCmp (compareOn GroupKey.coordinates))

instance : Std.TransOrd FieldKey :=
  inferInstanceAs (Std.TransCmp (compareOn FieldKey.coordinates))

instance : Std.LawfulEqOrd GroupKey where
  eq_of_compare {a b} h := GroupKey.coordinates_inj (Std.LawfulEqCmp.eq_of_compare
    (show compare a.coordinates b.coordinates = .eq from h))

instance : Std.LawfulEqOrd FieldKey where
  eq_of_compare {a b} h := FieldKey.coordinates_inj (Std.LawfulEqCmp.eq_of_compare
    (show compare a.coordinates b.coordinates = .eq from h))

/-! ### Written form -/

/-- One coordinate: its letter and its number. -/
def coordinateText (letter : Char) (n : Nat) : List Char := letter :: Decimal.print n

/-- The characters of a group key. -/
def GroupKey.chars (group : GroupKey) : List Char :=
  coordinateText 'p' group.pageIndex ++ '_' :: coordinateText 's' group.sectionIndex
    ++ '_' :: coordinateText 'g' group.groupIndex

/-- The characters of a field key. -/
def FieldKey.chars (key : FieldKey) : List Char :=
  key.groupKey.chars ++ '_' :: coordinateText 'q' key.questionIndex
    ++ '_' :: coordinateText 'i' key.instanceIndex

/-- The text of a group key. -/
def GroupKey.text (group : GroupKey) : String := .ofList group.chars

/-- The text of a field key. -/
def FieldKey.text (key : FieldKey) : String := .ofList key.chars

instance : ToString GroupKey := ⟨GroupKey.text⟩

instance : ToString FieldKey := ⟨FieldKey.text⟩

/-- The key of a sub-question, beside the key of its question. -/
def subKey (key : String) (position : Nat) : String :=
  key ++ "_sub" ++ .ofList (Decimal.print position)

/-- The key of the free text that belongs to a choice of the question at `key`. -/
def optionDetailKey (key : String) (position : Nat) : String :=
  key ++ "_opt" ++ .ofList (Decimal.print position)

/-- The key of a sub-question of this answer's question. -/
def FieldKey.sub (key : FieldKey) (position : Nat) : String := subKey key.text position

/-- The key of the free text that belongs to a choice of this answer's question. -/
def FieldKey.optionDetail (key : FieldKey) (position : Nat) : String :=
  optionDetailKey key.text position

/-! ### Reading -/

/-- Reads a coordinate under its letter: a canonical number that an underscore or the end
follows. -/
def readCoordinate (letter : Char) : List Char → Option (Nat × List Char)
  | [] => none
  | c :: rest =>
    if c = letter then
      (Decimal.read? (rest.takeWhile (· != '_'))).map (·, rest.dropWhile (· != '_'))
    else none

/-- Reads a coordinate after an underscore. -/
def readNextCoordinate (letter : Char) : List Char → Option (Nat × List Char)
  | '_' :: rest => readCoordinate letter rest
  | _ => none

/-- Reads the three coordinates of a group. -/
def GroupKey.read (text : List Char) : Option (GroupKey × List Char) := do
  let (p, text) ← readCoordinate 'p' text
  let (s, text) ← readNextCoordinate 's' text
  let (g, text) ← readNextCoordinate 'g' text
  return (⟨p, s, g⟩, text)

/-- Reads the five coordinates of an answer; what is left is empty or starts with an
underscore. -/
def FieldKey.read (text : List Char) : Option (FieldKey × List Char) := do
  let (group, text) ← GroupKey.read text
  let (q, text) ← readNextCoordinate 'q' text
  let (i, text) ← readNextCoordinate 'i' text
  return ((group.question q).fieldKey i, text)

/-- The field key that `text` starts with, and the rest of the text. -/
def FieldKey.split? (text : String) : Option (FieldKey × String) :=
  (FieldKey.read text.toList).map fun (key, rest) => (key, .ofList rest)

/-- The field key that `text` is. -/
def FieldKey.parse (text : String) : Except KeyError FieldKey :=
  match FieldKey.read text.toList with
  | some (key, []) => .ok key
  | _ => .error (.malformed text)

/-- The group key that `text` is. -/
def GroupKey.parse (text : String) : Except KeyError GroupKey :=
  match GroupKey.read text.toList with
  | some (group, []) => .ok group
  | _ => .error (.malformedGroup text)

/-- Whether `text` starts with the key of an answer of `group` at the given instance. -/
def keyInInstance (text : String) (group : GroupKey) (index : Nat) : Bool :=
  match FieldKey.read text.toList with
  | some (key, _) => group.contains key && key.instanceIndex == index
  | none => false

end Questionnaire
