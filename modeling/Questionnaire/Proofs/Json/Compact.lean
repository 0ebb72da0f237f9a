import Questionnaire.Json.Printer
import Questionnaire.Proofs.Json.Numbers

/-! # JSON on one line

Control characters are escaped in quotes and written nowhere else, so that a value takes one line
(`Json.plain_compactChars`). A list stands between brackets and an object between braces
(`Json.exists_compactChars_array`, `Json.exists_compactChars_object`). -/

namespace Questionnaire

/-- There is no control character below the blank in a text. -/
def Plain (chars : List Char) : Prop := ∀ c ∈ chars, ' ' ≤ c

instance : DecidablePred Plain := fun chars => List.decidableBAll (' ' ≤ ·) chars

theorem plain_nil : Plain [] := fun _ h => nomatch h

theorem Plain.append {chars more : List Char} (h : Plain chars) (hmore : Plain more) :
    Plain (chars ++ more) := List.forall_mem_append.2 ⟨h, hmore⟩

theorem Plain.cons {c : Char} {chars : List Char} (hc : ' ' ≤ c) (h : Plain chars) :
    Plain (c :: chars) := List.forall_mem_cons.2 ⟨hc, h⟩

theorem plain_of_digits {digits : List Char} (h : ∀ c ∈ digits, Decimal.isDigit c = true) :
    Plain digits := fun c hc =>
  Nat.le_trans (by decide : ' '.toNat ≤ 48) (Decimal.isDigit_iff.1 (h c hc)).1

theorem NumberLayout.Valid.plain {layout : NumberLayout} (h : layout.Valid) :
    Plain layout.text := by
  refine (plain_of_digits h.integer.2).append (.append ?_ ?_)
  · unfold fractionText
    split
    · exact plain_nil
    · exact .cons (by decide) (plain_of_digits h.fraction)
  · unfold exponentText
    split
    · exact plain_nil
    · rename_i negative digits hexponent
      refine .cons (by decide) (.cons ?_ (plain_of_digits (h.exponent _ _ hexponent).2))
      split <;> decide

namespace Json

theorem plain_escapeChar (c : Char) : Plain (escapeChar c) := by
  unfold escapeChar
  split
  case h_8 =>
    split
    · rename_i hcontrol
      have hdigits : ∀ n < 32, Plain ['\\', 'u', '0', '0', hexDigit (n / 16), hexDigit n] := by
        decide
      exact hdigits c.toNat hcontrol
    · rename_i hplain
      exact .cons (Char.not_lt.1 hplain) plain_nil
  all_goals decide

theorem plain_quote (text : String) : Plain (quote text) :=
  .cons (by decide) <| .append
    (fun _ hd => let ⟨c, _, hc⟩ := List.mem_flatMap.1 hd; plain_escapeChar c _ hc)
    (.cons (by decide) plain_nil)

theorem plain_numberText (value : JsonNumber) : Plain (numberText value) := by
  cases value with
  | natural n => exact plain_of_digits fun _ => Decimal.isDigit_of_mem_print
  | negative n => exact .cons (by decide) (plain_of_digits fun _ => Decimal.isDigit_of_mem_print)
  | double x =>
      obtain ⟨layout, hvalid, hlayout⟩ := x.exists_layout
      rw [numberText, hlayout, Binary64.signText]
      refine .append ?_ hvalid.plain
      split
      · exact .cons (by decide) plain_nil
      · exact plain_nil

mutual

/-- A value is written without control characters. -/
theorem plain_compactChars : ∀ value : Json, Plain (compactChars value)
  | .null | .bool true | .bool false | .array [] | .object [] => by unfold compactChars; decide
  | .number value => plain_numberText value
  | .string value => plain_quote value
  | .array (item :: rest) => by
    rw [compactChars]
    exact .cons (by decide) ((plain_compactChars item).append (plain_compactItems rest))
  | .object ((key, value) :: rest) => by
    rw [compactChars]
    exact .cons (by decide) <| (plain_quote key).append <| .cons (by decide) <|
      (plain_compactChars value).append (plain_compactEntries rest)

theorem plain_compactItems : ∀ items : List Json, Plain (compactItems items)
  | [] => by unfold compactItems; decide
  | item :: rest => by
    rw [compactItems]
    exact .cons (by decide) ((plain_compactChars item).append (plain_compactItems rest))

theorem plain_compactEntries : ∀ entries : List (String × Json), Plain (compactEntries entries)
  | [] => by unfold compactEntries; decide
  | (key, value) :: rest => by
    rw [compactEntries]
    exact .cons (by decide) <| (plain_quote key).append <| .cons (by decide) <|
      (plain_compactChars value).append (plain_compactEntries rest)

end

/-! ### Brackets and braces -/

theorem exists_compactItems (items : List Json) :
    ∃ front, compactItems items = front ++ [']'] := by
  induction items with
  | nil => exact ⟨[], by rw [compactItems]; rfl⟩
  | cons item items ih =>
      obtain ⟨front, hfront⟩ := ih
      exact ⟨',' :: (compactChars item ++ front), by rw [compactItems, hfront]; simp⟩

theorem exists_compactEntries (entries : List (String × Json)) :
    ∃ front, compactEntries entries = front ++ ['}'] := by
  induction entries with
  | nil => exact ⟨[], by rw [compactEntries]; rfl⟩
  | cons entry entries ih =>
      obtain ⟨front, hfront⟩ := ih
      exact ⟨',' :: (quote entry.1 ++ ':' :: (compactChars entry.2 ++ front)), by
        rw [compactEntries, hfront]
        simp⟩

/-- A list is written between brackets. -/
theorem exists_compactChars_array (items : List Json) :
    ∃ inner, compactChars (.array items) = '[' :: (inner ++ [']']) := by
  cases items with
  | nil => exact ⟨[], by rw [compactChars]; rfl⟩
  | cons item rest =>
      obtain ⟨front, hfront⟩ := exists_compactItems rest
      exact ⟨compactChars item ++ front, by rw [compactChars, hfront, List.append_assoc]⟩

/-- An object is written between braces. -/
theorem exists_compactChars_object (entries : List (String × Json)) :
    ∃ inner, compactChars (.object entries) = '{' :: (inner ++ ['}']) := by
  cases entries with
  | nil => exact ⟨[], by rw [compactChars]; rfl⟩
  | cons entry rest =>
      obtain ⟨front, hfront⟩ := exists_compactEntries rest
      exact ⟨quote entry.1 ++ ':' :: (compactChars entry.2 ++ front), by
        rw [compactChars, hfront]
        simp⟩

end Json

end Questionnaire
