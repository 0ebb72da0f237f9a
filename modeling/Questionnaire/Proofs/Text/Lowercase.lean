import Questionnaire.Text.Lowercase

/-! # What is left in lower case

No capital of ASCII is left in lower case, from whichever letter it might come
(`Text.isCapital_of_mem_lowercase`), and other characters of ASCII stay as they are
(`Text.lowercase_eq_self`). -/

namespace Questionnaire.Text

/-- Whether a character is a capital letter of ASCII. -/
def isCapital (c : Char) : Bool := 'A' ≤ c && c ≤ 'Z'

variable {c : Char} {before after text : List Char}

theorem isCapital_eq_true_iff : isCapital c = true ↔ 0x41 ≤ c.toNat ∧ c.toNat ≤ 0x5a := by
  rw [isCapital, Bool.and_eq_true, decide_eq_true_eq, decide_eq_true_eq]
  exact Iff.rfl

theorem isCapital_ofNat {n : Nat} (h : 0x5b ≤ n) : isCapital (.ofNat n) = false := by
  by_cases hvalid : n.isValidChar
  · have hcode : (Char.ofNat n).toNat = n := by
      rw [Char.ofNat, dif_pos hvalid]
      rfl
    rw [← Bool.not_eq_true, isCapital_eq_true_iff, hcode]
    omega
  · -- what is no code point becomes the character with the number zero
    rw [Char.ofNat, dif_neg hvalid]
    rfl

/-- The lower-case forms of all runs stand behind the capitals of ASCII. -/
theorem le_add_of_mem_lowerRuns : ∀ run ∈ lowerRuns, (0x5b : Int) ≤ run.1 + run.2.2.2 := by
  decide +kernel

theorem isCapital_lowerChar (c : Char) : isCapital (lowerChar c) = false := by
  rw [lowerChar]
  split
  · split
    · rename_i hcapital
      rw [← isCapital, isCapital_eq_true_iff] at hcapital
      exact isCapital_ofNat (by omega)
    · rename_i hother
      exact Bool.eq_false_iff.2 hother
  · split
    · rename_i first last step distance hrun
      have hmem := List.mem_of_find?_eq_some hrun
      have hwithin := List.find?_some hrun
      have hform := le_add_of_mem_lowerRuns _ hmem
      simp only [Bool.and_eq_true, decide_eq_true_eq] at hwithin hform
      exact isCapital_ofNat (by omega)
    · rename_i hascii _
      rw [← Bool.not_eq_true, isCapital_eq_true_iff]
      omega

theorem isCapital_of_mem_lowerIn {d : Char} (h : d ∈ lowerIn before c after) :
    isCapital d = false := by
  rw [lowerIn] at h
  split at h
  · obtain rfl := List.mem_singleton.1 h
    split <;> rfl
  · split at h
    · rcases List.mem_cons.1 h with rfl | h
      · rfl
      · obtain rfl := List.mem_singleton.1 h
        rfl
    · obtain rfl := List.mem_singleton.1 h
      exact isCapital_lowerChar c

theorem isCapital_of_mem_lowerAfter (h : c ∈ lowerAfter before text) : isCapital c = false := by
  induction text generalizing before with
  | nil => cases h
  | cons first rest ih =>
      rw [lowerAfter, List.mem_append] at h
      rcases h with h | h
      · exact isCapital_of_mem_lowerIn h
      · exact ih h

/-- No capital of ASCII is left in lower case. -/
theorem isCapital_of_mem_lowercase (h : c ∈ lowercase text) : isCapital c = false :=
  isCapital_of_mem_lowerAfter h

theorem lowerIn_eq_singleton (hascii : c.toNat < 0x80) (hsmall : isCapital c = false) :
    lowerIn before c after = [c] := by
  have hsigma : c ≠ 'Σ' := by
    rintro rfl
    exact absurd hascii (by decide)
  have hdotted : c ≠ 'İ' := by
    rintro rfl
    exact absurd hascii (by decide)
  have hletter : ¬ ('A' ≤ c && c ≤ 'Z') = true := Bool.eq_false_iff.1 hsmall
  rw [lowerIn, if_neg hsigma, if_neg hdotted, lowerChar, if_pos hascii, if_neg hletter]

theorem lowerAfter_eq_self (h : ∀ c ∈ text, c.toNat < 0x80 ∧ isCapital c = false) :
    lowerAfter before text = text := by
  induction text generalizing before with
  | nil => rfl
  | cons first rest ih =>
      obtain ⟨⟨hascii, hsmall⟩, hrest⟩ := List.forall_mem_cons.1 h
      rw [lowerAfter, lowerIn_eq_singleton hascii hsmall, ih hrest, List.singleton_append]

/-- Characters of ASCII other than capitals are in lower case. -/
theorem lowercase_eq_self (h : ∀ c ∈ text, c.toNat < 0x80 ∧ isCapital c = false) :
    lowercase text = text :=
  lowerAfter_eq_self h

end Questionnaire.Text
