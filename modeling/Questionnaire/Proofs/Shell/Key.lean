import Questionnaire.Proofs.Address.Extension
import Questionnaire.Proofs.Outcome
import Questionnaire.Proofs.Text.Blank
import Questionnaire.Shell

/-! # The keys that the shell takes

The shell takes a field key, alone or with one of two marks and some digits behind it
(`Shell.checkKey_eq_ok_iff`), and reports any other text as it stands (`Shell.checkKey_eq_error`).
These are the keys of fields, sub-questions and free texts, and the same keys with zeros before
their last number (`Shell.checkKey_eq_ok_iff_extended`); the free text beside a choice of a
sub-question has none of them (`Shell.checkKey_extended_ne_ok`). -/

namespace Questionnaire

/-! ### Keys are words -/

theorem Decimal.solid_of_digits {digits : List Char} (h : ∀ c ∈ digits, isDigit c = true) :
    Text.Solid digits := fun c hc => by
  obtain ⟨hlow, hhigh⟩ := isDigit_iff.1 (h c hc)
  exact Text.isBlank_eq_false_of_le (Nat.lt_of_lt_of_le (by decide : 32 < 48) hlow)
    (Nat.le_trans hhigh (by decide : 57 ≤ 126))

namespace FieldKey

theorem solid_chars (key : FieldKey) : Text.Solid key.chars := by
  have hprint (n : Nat) : Text.Solid (Decimal.print n) :=
    Decimal.solid_of_digits fun _ => Decimal.isDigit_of_mem_print
  simp only [chars, GroupKey.chars, coordinateText, Text.Solid, List.forall_mem_append,
    List.forall_mem_cons]
  exact ⟨⟨⟨⟨⟨by decide, hprint _⟩, by decide, by decide, hprint _⟩, by decide, by decide,
    hprint _⟩, by decide, by decide, hprint _⟩, by decide, by decide, hprint _⟩

/-- A key has no blanks, whatever extends it. -/
theorem solid_extended (key : FieldKey) (extension : KeyExtension) :
    Text.Solid (key.extended extension).toList := by
  have hnumber {mark : List Char} (hmark : Text.Solid mark) (n : Nat) :
      Text.Solid (mark ++ Decimal.print n) := List.forall_mem_append.2
    ⟨hmark, Decimal.solid_of_digits fun _ => Decimal.isDigit_of_mem_print⟩
  have hsub : Text.Solid (extension.sub.elim "" (subKey "")).toList := by
    cases extension.sub with
    | none => exact List.forall_mem_nil _
    | some n =>
        have := @hnumber ['_', 's', 'u', 'b'] (by decide) n
        simpa [subKey] using this
  have hdetail : Text.Solid (extension.detail.elim "" (optionDetailKey "")).toList := by
    cases extension.detail with
    | none => exact List.forall_mem_nil _
    | some n =>
        have := @hnumber ['_', 'o', 'p', 't'] (by decide) n
        simpa [optionDetailKey] using this
  rw [extended_eq, String.toList_append, FieldKey.text, String.toList_ofList, KeyExtension.text,
    String.toList_append]
  exact List.forall_mem_append.2 ⟨key.solid_chars, List.forall_mem_append.2 ⟨hsub, hdetail⟩⟩

theorem extended_ne_nil (key : FieldKey) (extension : KeyExtension) :
    (key.extended extension).toList ≠ [] := by
  rw [extended_eq, String.toList_append, FieldKey.text, String.toList_ofList]
  exact fun h => List.cons_ne_nil _ _ (List.append_eq_nil_iff.1 h).1

end FieldKey

/-! ### The recogniser -/

namespace Shell

/-- Whether a text marks a sub-question or a free text. -/
def IsMark (mark : String) : Prop := mark = "_sub" ∨ mark = "_opt"

/-- What the shell lets extend a key: one of two marks, and digits. -/
theorem isExtension_iff {rest : String} : isExtension rest = true ↔
    ∃ (mark : String) (digits : List Char), IsMark mark ∧
      rest = mark ++ .ofList digits ∧ digits ≠ [] ∧ ∀ c ∈ digits, Decimal.isDigit c = true := by
  have hmark {mark : String} (hlength : mark.toList.length = 4)
      (hstart : mark.toList <+: rest.toList) : rest = mark ++ .ofList (rest.toList.drop 4) := by
    obtain ⟨digits, hdigits⟩ := hstart
    rw [← hdigits, ← hlength, List.drop_left, ← String.toList_inj, String.toList_append,
      String.toList_ofList, hdigits]
  simp only [isExtension, Bool.and_eq_true, Bool.or_eq_true, String.startsWith_string_iff,
    Bool.not_eq_true', List.isEmpty_eq_false_iff, List.all_eq_true]
  constructor
  · rintro ⟨⟨hsub | hopt, hne⟩, hdigits⟩
    · exact ⟨"_sub", _, .inl rfl, hmark rfl hsub, hne, hdigits⟩
    · exact ⟨"_opt", _, .inr rfl, hmark rfl hopt, hne, hdigits⟩
  · rintro ⟨mark, digits, rfl | rfl, rfl, hne, hdigits⟩
    · simpa using ⟨hne, hdigits⟩
    · simpa using ⟨hne, hdigits⟩

theorem endsCoordinate_of_isExtension {rest : String} (h : isExtension rest = true) :
    EndsCoordinate rest.toList := by
  obtain ⟨mark, digits, rfl | rfl, rfl, -⟩ := isExtension_iff.1 h
  · rw [String.toList_append]
    exact endsCoordinate_cons _
  · rw [String.toList_append]
    exact endsCoordinate_cons _

/-- The shell takes a field key, alone or with one of the marks and digits behind it. -/
theorem checkKey_eq_ok_iff {text : String} : checkKey text = .ok () ↔
    ∃ (key : FieldKey) (rest : String), key.Fits ∧ text = key.text ++ rest ∧
      (rest = "" ∨ isExtension rest = true) := by
  have hparsed (h : ((FieldKey.parse text).map fun _ => ()) = .ok ()) :
      ∃ (key : FieldKey) (rest : String), key.Fits ∧ text = key.text ++ rest ∧
        (rest = "" ∨ isExtension rest = true) := by
    obtain ⟨key, hkey, -⟩ := map_eq_ok_iff.1 h
    obtain ⟨htext, hfits⟩ := FieldKey.parse_eq_ok_iff.1 hkey
    exact ⟨key, "", hfits, by rw [htext, String.append_empty], .inl rfl⟩
  constructor
  · intro h
    unfold checkKey at h
    split at h
    · rename_i key rest hsplit
      obtain ⟨htext, hfits, -⟩ := FieldKey.split?_eq_some_iff.1 hsplit
      split at h
      · rename_i hrest
        exact ⟨key, rest, hfits, htext, by simpa using hrest⟩
      · exact hparsed h
    · exact hparsed h
  · rintro ⟨key, rest, hfits, htext, hrest⟩
    have hends : EndsCoordinate rest.toList := by
      rcases hrest with rfl | hrest
      · exact endsCoordinate_nil
      · exact endsCoordinate_of_isExtension hrest
    rw [checkKey, FieldKey.split?_eq_some_iff.2 ⟨htext, hfits, hends⟩]
    exact if_pos (by simpa using hrest)

/-- Any other text is reported as it stands. -/
theorem checkKey_eq_error {text : String} (h : checkKey text ≠ .ok ()) :
    checkKey text = .error (.malformed text) := by
  have hparse (hno : ((FieldKey.parse text).map fun _ => ()) ≠ .ok ()) :
      ((FieldKey.parse text).map fun _ => ()) = .error (.malformed text) := by
    unfold FieldKey.parse at hno ⊢
    split
    · rename_i hread
      rw [hread] at hno
      exact absurd rfl hno
    · rfl
  unfold checkKey at h ⊢
  split
  · rename_i hsplit
    rw [hsplit] at h
    split
    · rename_i hrest
      exact absurd (if_pos hrest) h
    · rename_i hrest
      exact hparse fun hok => h ((if_neg hrest).trans hok)
  · rename_i hsplit
    rw [hsplit] at h
    exact hparse h

end Shell

/-! ### Leading zeros -/

/-- A row of digits with a zero too many in front. -/
def Decimal.Padded (digits : List Char) : Prop :=
  ∃ rest : List Char, rest ≠ [] ∧ digits = '0' :: rest ∧ ∀ c ∈ rest, isDigit c = true

/-- A row of digits is a number as it is written, or has a zero too many. -/
theorem Decimal.digits_iff {digits : List Char} :
    (digits ≠ [] ∧ ∀ c ∈ digits, isDigit c = true) ↔
      (∃ n, digits = print n) ∨ Padded digits := by
  constructor
  · rintro ⟨hne, hdigits⟩
    by_cases hleading : digits.head? = some '0' → digits = ['0']
    · exact .inl ⟨value digits, (print_value ⟨hne, hdigits, hleading⟩).symm⟩
    · push Not at hleading
      obtain ⟨rest, rfl⟩ := List.head?_eq_some_iff.1 hleading.1
      exact .inr ⟨rest, fun h => hleading.2 (by rw [h]), rfl, (List.forall_mem_cons.1 hdigits).2⟩
  · rintro (⟨n, rfl⟩ | ⟨rest, -, rfl, hrest⟩)
    · exact ⟨print_ne_nil n, fun _ => isDigit_of_mem_print⟩
    · exact ⟨List.cons_ne_nil _ _, List.forall_mem_cons.2 ⟨rfl, hrest⟩⟩

theorem Decimal.Padded.ne_print {digits : List Char} (h : Padded digits) (n : Nat) :
    digits ≠ print n := by
  rintro rfl
  obtain ⟨rest, hne, hprint, -⟩ := h
  have hzero := (canonical_print n).leading (by rw [hprint]; rfl)
  rw [hzero, List.cons.injEq] at hprint
  exact hne hprint.2.symm

/-- A key with a zero too many before the last number of its extension. -/
def FieldKey.Padded (text : String) : Prop :=
  ∃ (key : FieldKey) (mark : String) (digits : List Char), key.Fits ∧ Shell.IsMark mark ∧
    Decimal.Padded digits ∧ text = key.text ++ (mark ++ .ofList digits)

/-- The extensions that the shell knows: at most one of the two. -/
def KeyExtension.Single (extension : KeyExtension) : Prop :=
  extension.sub = none ∨ extension.detail = none

instance : DecidablePred KeyExtension.Single := fun extension =>
  inferInstanceAs (Decidable (extension.sub = none ∨ extension.detail = none))

namespace Shell

theorem isExtension_subKey (n : Nat) : isExtension (subKey "" n) = true :=
  isExtension_iff.2 ⟨"_sub", Decimal.print n, .inl rfl, by simp [subKey],
    Decimal.print_ne_nil n, fun _ => Decimal.isDigit_of_mem_print⟩

theorem isExtension_optionDetailKey (n : Nat) : isExtension (optionDetailKey "" n) = true :=
  isExtension_iff.2 ⟨"_opt", Decimal.print n, .inr rfl, by simp [optionDetailKey],
    Decimal.print_ne_nil n, fun _ => Decimal.isDigit_of_mem_print⟩

/-- Behind the digits of a sub-question no second extension is known. -/
theorem isExtension_subKey_append (n m : Nat) :
    isExtension (subKey "" n ++ optionDetailKey "" m) = false := by
  rw [Bool.eq_false_iff]
  intro h
  obtain ⟨mark, digits, hmark, htext, -, hdigits⟩ := isExtension_iff.1 h
  have hchars := congrArg (fun text : String => text.toList.drop 4) htext
  have hlength : mark.toList.length = 4 := by
    rcases hmark with rfl | rfl <;> rfl
  simp only [String.toList_append, String.toList_ofList, ← hlength, List.drop_left] at hchars
  have hunderscore : '_' ∈ digits := by
    rw [← hchars, hlength]
    simp [subKey, optionDetailKey]
  exact absurd (hdigits _ hunderscore) (by decide)

/-- The shell knows the extensions of which there is at most one. -/
theorem isExtension_text_iff {extension : KeyExtension} :
    extension.text = "" ∨ isExtension extension.text = true ↔ extension.Single := by
  obtain ⟨sub, detail⟩ := extension
  simp only [KeyExtension.text, KeyExtension.Single]
  cases sub with
  | none =>
      cases detail with
      | none => simp
      | some m => simp [isExtension_optionDetailKey]
  | some n =>
      cases detail with
      | none => simp [isExtension_subKey]
      | some m => simp [isExtension_subKey_append, subKey_ne_empty]

theorem exists_extension_of_isExtension {rest : String} (h : isExtension rest = true) :
    (∃ extension : KeyExtension, extension.Single ∧ rest = extension.text) ∨
      ∃ (mark : String) (digits : List Char), IsMark mark ∧
        Decimal.Padded digits ∧ rest = mark ++ .ofList digits := by
  obtain ⟨mark, digits, hmark, rfl, hdigits⟩ := isExtension_iff.1 h
  rcases Decimal.digits_iff.1 hdigits with ⟨n, rfl⟩ | hpadded
  · left
    rcases hmark with rfl | rfl
    · exact ⟨⟨some n, none⟩, .inr rfl, by simp [KeyExtension.text, subKey]⟩
    · exact ⟨⟨none, some n⟩, .inl rfl, by simp [KeyExtension.text, optionDetailKey]⟩
  · exact .inr ⟨mark, digits, hmark, hpadded, rfl⟩

/-- The shell takes the keys of fields, of sub-questions and of free texts beside the choices of
fields, and keys with a zero too many. -/
theorem checkKey_eq_ok_iff_extended {text : String} : checkKey text = .ok () ↔
    (∃ (key : FieldKey) (extension : KeyExtension),
      key.Fits ∧ extension.Single ∧ text = key.extended extension) ∨ FieldKey.Padded text := by
  rw [checkKey_eq_ok_iff]
  constructor
  · rintro ⟨key, rest, hfits, rfl, rfl | hrest⟩
    · exact .inl ⟨key, ⟨none, none⟩, hfits, .inl rfl, by rw [String.append_empty]; rfl⟩
    · rcases exists_extension_of_isExtension hrest with ⟨extension, hsingle, rfl⟩ | hpadded
      · exact .inl ⟨key, extension, hfits, hsingle, (key.extended_eq extension).symm⟩
      · obtain ⟨mark, digits, hmark, hpadded, rfl⟩ := hpadded
        exact .inr ⟨key, mark, digits, hfits, hmark, hpadded, rfl⟩
  · rintro (⟨key, extension, hfits, hsingle, rfl⟩ |
      ⟨key, mark, digits, hfits, hmark, hpadded, rfl⟩)
    · exact ⟨key, _, hfits, key.extended_eq extension, isExtension_text_iff.2 hsingle⟩
    · exact ⟨key, _, hfits, rfl, .inr (isExtension_iff.2
        ⟨mark, digits, hmark, rfl, Decimal.digits_iff.2 (.inr hpadded)⟩)⟩

end Shell

/-- No part of a form has a key with a zero too many. -/
theorem FieldKey.Padded.ne_extended {text : String} (h : FieldKey.Padded text) (key : FieldKey)
    (extension : KeyExtension) : text ≠ key.extended extension := by
  rintro rfl
  obtain ⟨other, mark, digits, -, hmark, hpadded, htext⟩ := h
  have hrest : Shell.isExtension (mark ++ .ofList digits) = true :=
    Shell.isExtension_iff.2 ⟨mark, digits, hmark, rfl, Decimal.digits_iff.2 (.inr hpadded)⟩
  rw [key.extended_eq] at htext
  obtain ⟨-, htext⟩ := FieldKey.text_append_inj extension.endsCoordinate_text
    (Shell.endsCoordinate_of_isExtension hrest) htext
  have hsingle := Shell.isExtension_text_iff.1 (.inr (htext ▸ hrest))
  have hchars := congrArg String.toList htext
  obtain ⟨sub, detail⟩ := extension
  rcases hmark with rfl | rfl <;> rcases hsingle with rfl | rfl
  · cases detail <;> simp [KeyExtension.text, optionDetailKey] at hchars
  · cases sub with
    | none => simp [KeyExtension.text] at hchars
    | some n => exact hpadded.ne_print n (by simpa [KeyExtension.text, subKey] using hchars.symm)
  · cases detail with
    | none => simp [KeyExtension.text] at hchars
    | some n =>
        exact hpadded.ne_print n (by simpa [KeyExtension.text, optionDetailKey] using hchars.symm)
  · cases sub <;> simp [KeyExtension.text, subKey] at hchars

/-- The free text beside a choice of a sub-question has no key that the shell takes. -/
theorem Shell.checkKey_extended_ne_ok {extension : KeyExtension} (h : ¬ extension.Single)
    (key : FieldKey) : Shell.checkKey (key.extended extension) ≠ .ok () := by
  intro hok
  rcases Shell.checkKey_eq_ok_iff_extended.1 hok with
    ⟨other, extension', -, hsingle, hkey⟩ | hpadded
  · obtain ⟨-, rfl⟩ := FieldKey.extended_inj.1 hkey
    exact h hsingle
  · exact hpadded.ne_extended key extension rfl

end Questionnaire
