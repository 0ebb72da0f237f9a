import Mathlib.Data.List.Induction
import Questionnaire.Text.Decimal

/-! # Numbers in words and in decimal

A number has a next one if the word holds it (`successor_eq_ok_iff`).

`Decimal.print` writes every number in one way, without a leading zero (`canonical_print`), and
`Decimal.value` takes it back (`value_print`); a canonical row of digits is what its value is
written as (`print_value`). So `Decimal.read?` accepts exactly the written forms of the 64-bit
numbers (`read?_eq_some_iff`). -/

namespace Questionnaire

theorem successor_eq_ok_iff {limit n next : Nat} :
    successor limit n = .ok next ↔ n + 1 < limit ∧ next = n + 1 := by
  unfold successor
  split
  · rename_i hfits
    simp [hfits, eq_comm]
  · rename_i hfull
    simp [hfull]

namespace Decimal

/-- A row of digits as it is written: not empty, and a leading zero only if it stands alone. -/
structure Canonical (digits : List Char) : Prop where
  ne_nil : digits ≠ []
  isDigit : ∀ c ∈ digits, isDigit c = true
  leading : digits.head? = some '0' → digits = ['0']

theorem isDigit_iff {c : Char} : isDigit c = true ↔ 48 ≤ c.toNat ∧ c.toNat ≤ 57 := by
  rw [isDigit, Bool.and_eq_true, decide_eq_true_eq, decide_eq_true_eq]
  exact Iff.rfl

theorem digitValue_eq (c : Char) : digitValue c = c.toNat - 48 := rfl

theorem digitValue_lt {c : Char} (h : isDigit c = true) : digitValue c < 10 := by
  have := isDigit_iff.1 h
  rw [digitValue_eq]
  omega

theorem value_eq_ofDigitChars (digits : List Char) : value digits = Nat.ofDigitChars 10 digits 0 :=
  (Nat.ofDigitChars_eq_foldl).symm

@[simp] theorem value_print (n : Nat) : value (print n) = n := by
  rw [value_eq_ofDigitChars, print, Nat.ofDigitChars_ten_toDigits]

theorem print_injective : Function.Injective print := fun m n h => by
  rw [← value_print m, h, value_print]

theorem print_ne_nil (n : Nat) : print n ≠ [] := Nat.toDigits_ne_nil

theorem isDigit_of_mem_print {n : Nat} {c : Char} (h : c ∈ print n) : isDigit c = true := by
  have := Nat.isDigit_of_mem_toDigits (by decide) (by decide) h
  rw [Char.isDigit, Bool.and_eq_true, decide_eq_true_eq, decide_eq_true_eq] at this
  exact isDigit_iff.2 this

/-- A number can be told from what follows it, unless that goes on with a digit. -/
theorem print_append_inj {m n : Nat} {rest rest' : List Char}
    (h : ∀ c, rest.head? = some c → isDigit c = false)
    (h' : ∀ c, rest'.head? = some c → isDigit c = false)
    (heq : print m ++ rest = print n ++ rest') : m = n ∧ rest = rest' := by
  have htake (k : Nat) {more : List Char}
      (hmore : ∀ c, more.head? = some c → isDigit c = false) :
      (print k ++ more).takeWhile isDigit = print k := by
    rw [List.takeWhile_append_of_pos fun c => isDigit_of_mem_print]
    cases more with
    | nil => rw [List.takeWhile_nil, List.append_nil]
    | cons c more => rw [List.takeWhile_cons_of_neg (by simp [hmore c rfl]), List.append_nil]
  have hprint : print m = print n := by rw [← htake m h, heq, htake n h']
  rw [hprint] at heq
  exact ⟨print_injective hprint, List.append_cancel_left heq⟩

theorem underscore_notMem_print (n : Nat) : '_' ∉ print n := Nat.underscore_not_in_toDigits

theorem print_of_lt {n : Nat} (h : n < 10) : print n = [n.digitChar] := Nat.toDigits_of_lt_base h

theorem print_of_le {n : Nat} (h : 10 ≤ n) : print n = print (n / 10) ++ [(n % 10).digitChar] :=
  Nat.toDigits_of_base_le (by decide) h

theorem canonical_print (n : Nat) : Canonical (print n) := by
  refine ⟨print_ne_nil n, fun c => isDigit_of_mem_print, ?_⟩
  induction n using Nat.strongRecOn with
  | ind n ih =>
      intro h0
      rcases Nat.lt_or_ge n 10 with hlt | hge
      · rw [print_of_lt hlt] at h0 ⊢
        simpa using h0
      · rw [print_of_le hge, List.head?_append, Option.or_of_isSome (by simp [print_ne_nil])] at h0
        have hzero := ih (n / 10) (by omega) h0
        have : n / 10 = 0 := print_injective (hzero.trans (print_of_lt (n := 0) (by decide)).symm)
        omega

theorem value_concat (digits : List Char) (c : Char) :
    value (digits ++ [c]) = 10 * value digits + digitValue c := by
  simp [value, List.foldl_append]

theorem print_digitValue {c : Char} (h : isDigit c = true) : print (digitValue c) = [c] := by
  have hlt := digitValue_lt h
  have hlow := (isDigit_iff.1 h).1
  rw [print_of_lt hlt, List.cons.injEq]
  refine ⟨?_, rfl⟩
  apply Char.toNat_inj.1
  rw [Nat.toNat_digitChar_of_lt_ten hlt, digitValue_eq]
  omega

/-- A canonical row of digits is what its value is written as. -/
theorem print_value {digits : List Char} (h : Canonical digits) :
    print (value digits) = digits := by
  induction digits using List.reverseRecOn with
  | nil => exact absurd rfl h.ne_nil
  | append_singleton digits c ih =>
      have hc : isDigit c = true := h.isDigit c (by simp)
      cases digits with
      | nil => simpa [value] using print_digitValue hc
      | cons d rest =>
          have hd : d ≠ '0' := fun hd => by
            have := h.leading (by simp [hd])
            simp at this
          have hinit : Canonical (d :: rest) :=
            ⟨by simp, fun x hx => h.isDigit x (List.mem_append_left _ hx), fun h0 => by
              simp [hd] at h0⟩
          have hprint := ih hinit
          have hpos : 0 < value (d :: rest) := by
            refine Nat.pos_of_ne_zero fun hzero => hd ?_
            rw [hzero, print_of_lt (by decide)] at hprint
            exact (List.cons.inj hprint).1.symm
          rw [value_concat, print,
            ← Nat.toDigits_append_toDigits (by decide) hpos (digitValue_lt hc)]
          exact congrArg₂ (· ++ ·) hprint (print_digitValue hc)

theorem ofDigits?_eq_some_iff {digits : List Char} {n : Nat} :
    ofDigits? digits = some n ↔
      digits ≠ [] ∧ (∀ c ∈ digits, isDigit c = true) ∧ value digits = n ∧ n < wordLimit := by
  unfold ofDigits?
  split
  · rename_i h
    simp only [Bool.and_eq_true, Bool.not_eq_true', List.isEmpty_eq_false_iff, List.all_eq_true,
      decide_eq_true_eq] at h
    simp only [Option.some.injEq]
    constructor
    · rintro rfl
      exact ⟨h.1.1, h.1.2, rfl, h.2⟩
    · exact fun h' => h'.2.2.1
  · rename_i h
    simp only [Bool.and_eq_true, Bool.not_eq_true', List.isEmpty_eq_false_iff, List.all_eq_true,
      decide_eq_true_eq] at h
    simp only [reduceCtorEq, false_iff]
    rintro ⟨h1, h2, rfl, h3⟩
    exact h ⟨⟨h1, h2⟩, h3⟩

/-- What is read as a 64-bit number is its written form and nothing else. -/
theorem read?_eq_some_iff {text : List Char} {n : Nat} :
    read? text = some n ↔ text = print n ∧ n < wordLimit := by
  constructor
  · intro h
    unfold read? at h
    split at h
    · cases h
    · rename_i hlead
      obtain ⟨hne, hdigit, rfl, hlt⟩ := ofDigits?_eq_some_iff.1 h
      refine ⟨(print_value ⟨hne, hdigit, fun h0 => ?_⟩).symm, hlt⟩
      cases text with
      | nil => cases h0
      | cons c rest =>
          obtain rfl := Option.some.inj h0
          cases rest with
          | nil => rfl
          | cons d rest => exact (hlead d rest rfl).elim
  · rintro ⟨rfl, hlt⟩
    have hcanon := canonical_print n
    unfold read?
    split
    · rename_i heq
      have := hcanon.leading (by simp [heq])
      simp [this] at heq
    · exact ofDigits?_eq_some_iff.2 ⟨hcanon.ne_nil, hcanon.isDigit, value_print n, hlt⟩

end Decimal

end Questionnaire
