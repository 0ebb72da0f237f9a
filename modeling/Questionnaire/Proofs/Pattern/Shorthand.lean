import Mathlib.Algebra.Group.Even
import Mathlib.Algebra.Group.Nat.Even
import Mathlib.Data.List.Basic
import Mathlib.Data.List.TakeWhile
import Questionnaire.Pattern.Basic

/-! # Patterns without shorthands

A pattern is read piece by piece: a backslash goes with the character after it, and a bracket that
does not follow one begins or ends a class (`pieces_induction`). `escapes` lists the escapes that
are met, each with whether it stands in a class. What stands for a shorthand has no shorthand of its
own and ends in the same state in which it begins (`settled_shorthand`), so none is left when all
are written out, and writing out those that are left changes nothing
(`expandShorthands_stable`). -/

namespace Questionnaire.Pattern

/-- Whether the place behind a character is in a class, if the character stands for itself. -/
def classAfter (inClass : Bool) (c : Char) : Bool := if inClass then c != ']' else c == '['

/-- The characters of a pattern that a backslash escapes, each with whether it stands in a class. -/
def escapes (inClass : Bool) : List Char → List (Bool × Char)
  | [] => []
  | ['\\'] => []
  | '\\' :: c :: rest => (inClass, c) :: escapes inClass rest
  | c :: rest => escapes (classAfter inClass c) rest

/-- Whether the end of a text is in a class; there is no saying after a backslash that nothing
follows. -/
def endsIn? (inClass : Bool) : List Char → Option Bool
  | [] => some inClass
  | ['\\'] => none
  | '\\' :: _ :: rest => endsIn? inClass rest
  | c :: rest => endsIn? (classAfter inClass c) rest

/-- How many backslashes stand at the end of a text. -/
def finalBackslashes (text : List Char) : Nat := (text.reverse.takeWhile (· == '\\')).length

/-- A backslash that is not escaped itself stands before a character: before it there is an even
number of others. -/
def HasEscape (pattern : List Char) (c : Char) : Prop :=
  ∃ before after, pattern = before ++ '\\' :: c :: after ∧ Even (finalBackslashes before)

/-- What is written for a part of a pattern can be read again as it stands: no shorthand is in it,
and its end is in a class exactly if its start is. -/
structure Settled (inClass : Bool) (text : List Char) : Prop where
  endsIn : endsIn? inClass text = some inClass
  escapes : ∀ e ∈ escapes inClass text, shorthand e.1 e.2 = none

variable {inClass next : Bool} {c : Char} {text rest : List Char}

/-! ### Pieces -/

/-- Induction on the pieces of a pattern. -/
theorem pieces_induction {motive : Bool → List Char → Prop} (nil : ∀ inClass, motive inClass [])
    (lone : ∀ inClass, motive inClass ['\\'])
    (escape : ∀ inClass c rest, motive inClass rest → motive inClass ('\\' :: c :: rest))
    (plain : ∀ inClass c rest, c ≠ '\\' → motive (classAfter inClass c) rest →
      motive inClass (c :: rest)) (inClass : Bool) (text : List Char) : motive inClass text := by
  fun_induction escapes inClass text with
  | case1 inClass => exact nil inClass
  | case2 inClass => exact lone inClass
  | case3 inClass c rest ih => exact escape inClass c rest ih
  | case4 inClass c rest hlone hescape ih =>
      apply plain inClass c rest _ ih
      rintro rfl
      cases rest with
      | nil => exact hlone rfl rfl
      | cons d rest => exact hescape d rest rfl rfl

theorem expandFrom_escape (inClass : Bool) (c : Char) (rest : List Char) :
    expandFrom inClass ('\\' :: c :: rest) =
      (shorthand inClass c).getD ['\\', c] ++ expandFrom inClass rest := rfl

theorem expandFrom_plain (hc : c ≠ '\\') (rest : List Char) :
    expandFrom inClass (c :: rest) = c :: expandFrom (classAfter inClass c) rest := by
  rw [expandFrom]
  · rfl
  all_goals simp [hc]

theorem escapes_escape (inClass : Bool) (c : Char) (rest : List Char) :
    escapes inClass ('\\' :: c :: rest) = (inClass, c) :: escapes inClass rest := rfl

theorem escapes_plain (hc : c ≠ '\\') (rest : List Char) :
    escapes inClass (c :: rest) = escapes (classAfter inClass c) rest := by
  rw [escapes]
  all_goals simp [hc]

theorem endsIn?_plain (hc : c ≠ '\\') (rest : List Char) :
    endsIn? inClass (c :: rest) = endsIn? (classAfter inClass c) rest := by
  rw [endsIn?]
  all_goals simp [hc]

theorem escapes_append (h : endsIn? inClass text = some next) :
    escapes inClass (text ++ rest) = escapes inClass text ++ escapes next rest := by
  induction inClass, text using pieces_induction with
  | nil inClass =>
      obtain rfl := Option.some.inj h
      rfl
  | lone inClass => cases h
  | escape inClass c text ih =>
      rw [List.cons_append, List.cons_append, escapes_escape, escapes_escape, ih h,
        List.cons_append]
  | plain inClass c text hc ih =>
      rw [endsIn?_plain hc] at h
      rw [List.cons_append, escapes_plain hc, escapes_plain hc, ih h]

/-- A pattern without shorthands is left as it is. -/
theorem expandFrom_eq_self (h : ∀ e ∈ escapes inClass text, shorthand e.1 e.2 = none) :
    expandFrom inClass text = text := by
  induction inClass, text using pieces_induction with
  | nil inClass => rfl
  | lone inClass => rfl
  | escape inClass c text ih =>
      rw [escapes_escape, List.forall_mem_cons] at h
      rw [expandFrom_escape, h.1, ih h.2]
      rfl
  | plain inClass c text hc ih =>
      rw [escapes_plain hc] at h
      rw [expandFrom_plain hc, ih h]

/-! ### What is written out -/

theorem settled_shorthandInClass (h : shorthandInClass c = some text) : Settled true text := by
  unfold shorthandInClass at h
  split at h
  all_goals cases h
  all_goals exact ⟨by decide +kernel, by decide +kernel⟩

theorem settled_shorthandOutside (h : shorthandOutside c = some text) : Settled false text := by
  unfold shorthandOutside at h
  split at h
  all_goals cases h
  all_goals exact ⟨by decide +kernel, by decide +kernel⟩

/-- What stands for a shorthand has none in it and does not begin or end a class for what
follows. -/
theorem settled_shorthand (h : shorthand inClass c = some text) : Settled inClass text := by
  cases inClass with
  | true => exact settled_shorthandInClass h
  | false => exact settled_shorthandOutside h

/-- No shorthand is left when all are written out. -/
theorem shorthand_of_mem_escapes_expandFrom (inClass : Bool) (text : List Char) :
    ∀ e ∈ escapes inClass (expandFrom inClass text), shorthand e.1 e.2 = none := by
  induction inClass, text using pieces_induction with
  | nil inClass => exact List.forall_mem_nil _
  | lone inClass => exact List.forall_mem_nil _
  | escape inClass c text ih =>
      rw [expandFrom_escape]
      cases hshorthand : shorthand inClass c with
      | none => exact List.forall_mem_cons.2 ⟨hshorthand, ih⟩
      | some expansion =>
          have hsettled := settled_shorthand hshorthand
          rw [Option.getD_some, escapes_append hsettled.endsIn]
          exact List.forall_mem_append.2 ⟨hsettled.escapes, ih⟩
  | plain inClass c text hc ih =>
      rw [expandFrom_plain hc, escapes_plain hc]
      exact ih

/-! ### Escapes in a text -/

theorem hasEscape_nil : ¬ HasEscape [] c := by
  rintro ⟨before, after, hsplit, -⟩
  exact absurd hsplit.symm (by simp)

theorem hasEscape_lone : ¬ HasEscape ['\\'] c := by
  rintro ⟨before, after, hsplit, -⟩
  have hlength := congrArg List.length hsplit
  rw [List.length_append, List.length_cons, List.length_cons, List.length_cons, List.length_nil]
    at hlength
  omega

theorem length_takeWhile_append (p : Char → Bool) (first second : List Char) :
    ((first ++ second).takeWhile p).length =
      (first.takeWhile p).length + if first.all p then (second.takeWhile p).length else 0 := by
  rw [List.takeWhile_append]
  by_cases hall : first.all p = true
  · have hfirst : first.takeWhile p = first :=
      List.takeWhile_eq_self_iff.2 (List.all_eq_true.1 hall)
    rw [hfirst, if_pos rfl, if_pos hall, List.length_append]
  · have hfirst : (first.takeWhile p).length ≠ first.length := by
      intro hlength
      have hsame := (List.takeWhile_prefix p).eq_of_length hlength
      exact hall (List.all_eq_true.2 (List.takeWhile_eq_self_iff.1 hsame))
    rw [if_neg hfirst, if_neg hall, Nat.add_zero]

/-- An escape in front changes nothing about which backslashes behind it are escaped. -/
theorem even_finalBackslashes_escape (d : Char) (before : List Char) :
    Even (finalBackslashes ('\\' :: d :: before)) ↔ Even (finalBackslashes before) := by
  have hpair : Even (([d] ++ ['\\']).takeWhile (· == '\\')).length := by
    by_cases hd : d = '\\'
    · subst hd
      decide
    · rw [List.singleton_append, List.takeWhile_cons_of_neg (by simpa using hd)]
      decide
  rw [finalBackslashes, List.reverse_cons, List.reverse_cons, List.append_assoc,
    length_takeWhile_append, finalBackslashes]
  split
  · rw [Nat.even_add]
    exact ⟨fun h => h.2 hpair, fun h => ⟨fun _ => hpair, fun _ => h⟩⟩
  · rw [Nat.add_zero]

theorem finalBackslashes_plain {d : Char} (hd : d ≠ '\\') (before : List Char) :
    finalBackslashes (d :: before) = finalBackslashes before := by
  have hend : ([d].takeWhile (· == '\\')).length = 0 := by simp [hd]
  rw [finalBackslashes, List.reverse_cons, length_takeWhile_append, hend, ite_self, Nat.add_zero,
    finalBackslashes]

theorem hasEscape_escape {d : Char} :
    HasEscape ('\\' :: d :: rest) c ↔ d = c ∨ HasEscape rest c := by
  constructor
  · rintro ⟨before, after, hsplit, heven⟩
    rcases before with _ | ⟨first, _ | ⟨second, before⟩⟩
    · exact .inl (List.cons.inj (List.cons.inj hsplit).2).1
    · obtain rfl : '\\' = first := (List.cons.inj hsplit).1
      exact absurd heven (by decide)
    · simp only [List.cons_append, List.cons.injEq] at hsplit
      obtain ⟨rfl, rfl, hsplit⟩ := hsplit
      exact .inr ⟨before, after, hsplit, (even_finalBackslashes_escape _ _).1 heven⟩
  · rintro (rfl | ⟨before, after, rfl, heven⟩)
    · exact ⟨[], rest, rfl, by decide⟩
    · exact ⟨'\\' :: d :: before, after, rfl, (even_finalBackslashes_escape _ _).2 heven⟩

theorem hasEscape_plain {d : Char} (hd : d ≠ '\\') :
    HasEscape (d :: rest) c ↔ HasEscape rest c := by
  constructor
  · rintro ⟨before, after, hsplit, heven⟩
    cases before with
    | nil => exact absurd (List.cons.inj hsplit).1 hd
    | cons first before =>
        simp only [List.cons_append, List.cons.injEq] at hsplit
        obtain ⟨rfl, hsplit⟩ := hsplit
        rw [finalBackslashes_plain hd] at heven
        exact ⟨before, after, hsplit, heven⟩
  · rintro ⟨before, after, rfl, heven⟩
    refine ⟨d :: before, after, rfl, ?_⟩
    rwa [finalBackslashes_plain hd]

/-- What is read as an escape is what stands behind a backslash that is not escaped. -/
theorem hasEscape_iff (inClass : Bool) (text : List Char) :
    HasEscape text c ↔ c ∈ (escapes inClass text).map (·.2) := by
  induction inClass, text using pieces_induction with
  | nil inClass => exact iff_of_false hasEscape_nil List.not_mem_nil
  | lone inClass => exact iff_of_false hasEscape_lone List.not_mem_nil
  | escape inClass d rest ih =>
      rw [hasEscape_escape, ih, escapes_escape, List.map_cons, List.mem_cons, eq_comm]
  | plain inClass d rest hd ih => rw [hasEscape_plain hd, ih, escapes_plain hd]

/-! ### Writing out once -/

theorem shorthand_eq_none_iff : shorthand inClass c = none ↔
    c ∉ ['d', 'D', 'w', 'W', 's', 'b'] ∧ (inClass = false → c ∉ ['S', 'B']) := by
  cases inClass with
  | true =>
      show shorthandInClass c = none ↔ _
      unfold shorthandInClass
      split <;> simp_all
  | false =>
      show shorthandOutside c = none ↔ _
      unfold shorthandOutside
      split <;> simp_all

/-- **Shorthands.** Where the shorthands of a pattern have been written out, none is left, except
for two that stand for nothing else in a class, so writing them out again changes nothing; and a
pattern in which no backslash makes a shorthand of the letter behind it is left as it is. -/
theorem expandShorthands_stable (pattern : List Char) :
    expandShorthands (expandShorthands pattern) = expandShorthands pattern ∧
      (∀ inClass c, (inClass, c) ∈ escapes false (expandShorthands pattern) →
        c ∉ ['d', 'D', 'w', 'W', 's', 'b'] ∧ (inClass = false → c ∉ ['S', 'B'])) ∧
      ((∀ c, HasEscape pattern c → c ∉ ['d', 'D', 'w', 'W', 's', 'S', 'b', 'B']) →
        expandShorthands pattern = pattern) := by
  have hleft := shorthand_of_mem_escapes_expandFrom false pattern
  refine ⟨expandFrom_eq_self hleft, ?_, ?_⟩
  · intro inClass c hc
    exact shorthand_eq_none_iff.1 (hleft (inClass, c) hc)
  · intro h
    apply expandFrom_eq_self
    intro e he
    have hletter := h e.2 ((hasEscape_iff false pattern).2 (List.mem_map_of_mem he))
    simp only [List.mem_cons, List.not_mem_nil, or_false, not_or] at hletter
    rw [shorthand_eq_none_iff]
    simp [hletter]

/-- A pattern with escaped backslashes before letters, escaped brackets and a backslash at its
end. -/
def pricePattern : List Char := "\\\\d\\[[\\]\\\\w$]\\$\\".toList

theorem expandShorthands_stable_price :
    (∀ c, HasEscape pricePattern c → c ∉ ['d', 'D', 'w', 'W', 's', 'S', 'b', 'B']) ∧
      expandShorthands pricePattern = pricePattern := by
  have hescapes : ∀ c, HasEscape pricePattern c →
      c ∉ ['d', 'D', 'w', 'W', 's', 'S', 'b', 'B'] := by
    have hread : (escapes false pricePattern).map (·.2) = ['\\', '[', ']', '\\', '$'] := rfl
    intro c hc
    rw [hasEscape_iff false, hread] at hc
    simp only [List.mem_cons, List.not_mem_nil, or_false] at hc
    rcases hc with rfl | rfl | rfl | rfl | rfl <;> decide
  exact ⟨hescapes, (expandShorthands_stable pricePattern).2.2 hescapes⟩

end Questionnaire.Pattern
