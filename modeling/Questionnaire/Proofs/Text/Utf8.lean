import Mathlib.Data.List.Basic
import Questionnaire.Text.Utf8

/-! # Texts as bytes

The bytes of a text are read back as its characters (`Utf8.decode_toUTF8`): whatever follows, the
bytes of a character are one well-formed sequence (`Utf8.decode_utf8EncodeChar`). -/

namespace Questionnaire.Utf8

/-! ### One sequence -/

theorem toNat_ofNat {n : Nat} (h : n < 256) : (UInt8.ofNat n).toNat = n := by
  rw [UInt8.toNat_ofNat', Nat.mod_eq_of_lt h]

theorem tail?_ofNat {n : Nat} (h : n < 64) : tail? (.ofNat (n + 0x80)) = some n := by
  simp only [tail?, UInt8.le_iff_toNat_le, UInt8.lt_iff_toNat_lt,
    toNat_ofNat (show n + 0x80 < 256 by omega), UInt8.reduceToNat, Bool.and_eq_true,
    decide_eq_true_eq]
  rw [if_pos (by omega), Nat.add_sub_cancel]

/-- The code point of a character stands for the character. -/
theorem char?_toNat {c : Char} {least : Nat} (h : least ≤ c.toNat) :
    char? least c.toNat = some c := by
  have hvalid : c.toNat < 0xd800 ∨ 0xdfff < c.toNat ∧ c.toNat < 0x110000 := c.valid
  have hrange : (decide (least ≤ c.toNat) && decide (c.toNat < 0x110000)
      && !(decide (0xd800 ≤ c.toNat) && decide (c.toNat < 0xe000))) = true := by
    simp only [Bool.and_eq_true, Bool.not_eq_true', Bool.and_eq_false_iff, decide_eq_true_eq,
      decide_eq_false_iff_not]
    omega
  rw [char?, if_pos hrange, Char.ofNat_toNat]

theorem pair?_ofNat {h t : Nat} (hh : h < 32) (ht : t < 64) :
    pair? (.ofNat (h + 0xc0)) (.ofNat (t + 0x80)) = char? 0x80 (h * 64 + t) := by
  simp only [pair?, UInt8.le_iff_toNat_le, UInt8.lt_iff_toNat_lt,
    toNat_ofNat (show h + 0xc0 < 256 by omega), UInt8.reduceToNat, Bool.and_eq_true,
    decide_eq_true_eq, tail?_ofNat ht]
  rw [if_pos (by omega), Nat.add_sub_cancel]
  rfl

theorem triple?_ofNat {h t u : Nat} (hh : h < 16) (ht : t < 64) (hu : u < 64) :
    triple? (.ofNat (h + 0xe0)) (.ofNat (t + 0x80)) (.ofNat (u + 0x80)) =
      char? 0x800 ((h * 64 + t) * 64 + u) := by
  simp only [triple?, UInt8.le_iff_toNat_le, UInt8.lt_iff_toNat_lt,
    toNat_ofNat (show h + 0xe0 < 256 by omega), UInt8.reduceToNat, Bool.and_eq_true,
    decide_eq_true_eq, tail?_ofNat ht, tail?_ofNat hu]
  rw [if_pos (by omega), Nat.add_sub_cancel]
  rfl

theorem quadruple?_ofNat {h t u v : Nat} (hh : h < 8) (ht : t < 64) (hu : u < 64) (hv : v < 64) :
    quadruple? (.ofNat (h + 0xf0)) (.ofNat (t + 0x80)) (.ofNat (u + 0x80)) (.ofNat (v + 0x80)) =
      char? 0x10000 (((h * 64 + t) * 64 + u) * 64 + v) := by
  simp only [quadruple?, UInt8.le_iff_toNat_le, UInt8.lt_iff_toNat_lt,
    toNat_ofNat (show h + 0xf0 < 256 by omega), UInt8.reduceToNat, Bool.and_eq_true,
    decide_eq_true_eq, tail?_ofNat ht, tail?_ofNat hu, tail?_ofNat hv]
  rw [if_pos (by omega), Nat.add_sub_cancel]
  rfl

/-- No pair begins with the lead of a longer sequence. -/
theorem pair?_eq_none {a b : UInt8} (h : 0xe0 ≤ a.toNat) : pair? a b = none := by
  simp only [pair?, UInt8.le_iff_toNat_le, UInt8.lt_iff_toNat_lt, UInt8.reduceToNat,
    Bool.and_eq_true, decide_eq_true_eq]
  rw [if_neg (by omega)]

/-- No triple begins with the lead of a longer sequence. -/
theorem triple?_eq_none {a b c : UInt8} (h : 0xf0 ≤ a.toNat) : triple? a b c = none := by
  simp only [triple?, UInt8.le_iff_toNat_le, UInt8.lt_iff_toNat_lt, UInt8.reduceToNat,
    Bool.and_eq_true, decide_eq_true_eq]
  rw [if_neg (by omega)]

/-! ### A sequence and what follows -/

section step

variable {a b c d : UInt8} {x : Char} (rest : List UInt8)

theorem decode_single (ha : a < 0x80) :
    decode (a :: rest) = .char (.ofNat a.toNat) :: decode rest := by
  match rest with
  | [] | [_] | [_, _] | _ :: _ :: _ :: _ => simp [decode, ha]

theorem decode_pair (ha : ¬ a < 0x80) (hpair : pair? a b = some x) :
    decode (a :: b :: rest) = .char x :: decode rest := by
  match rest with
  | [] | [_] | _ :: _ :: _ => simp [decode, ha, hpair]

theorem decode_triple (ha : ¬ a < 0x80) (hpair : pair? a b = none)
    (htriple : triple? a b c = some x) :
    decode (a :: b :: c :: rest) = .char x :: decode rest := by
  match rest with
  | [] | _ :: _ => simp [decode, ha, hpair, htriple]

theorem decode_quadruple (ha : ¬ a < 0x80) (hpair : pair? a b = none)
    (htriple : triple? a b c = none) (hquadruple : quadruple? a b c d = some x) :
    decode (a :: b :: c :: d :: rest) = .char x :: decode rest := by
  simp [decode, ha, hpair, htriple, hquadruple]

end step

theorem not_lt_of_le {n : Nat} (hn : n < 256) (h : 0x80 ≤ n) : ¬ UInt8.ofNat n < 0x80 := by
  rw [UInt8.lt_iff_toNat_lt, toNat_ofNat hn]
  exact Nat.not_lt.2 h

/-- The bytes of a character are read back as the character, whatever follows. -/
theorem decode_utf8EncodeChar (c : Char) (rest : List UInt8) :
    decode (String.utf8EncodeChar c ++ rest) = .char c :: decode rest := by
  have hmax : c.toNat < 0x110000 := by
    have hvalid : c.toNat < 0xd800 ∨ 0xdfff < c.toNat ∧ c.toNat < 0x110000 := c.valid
    omega
  have hval : c.val.toNat = c.toNat := rfl
  simp only [String.utf8EncodeChar, hval]
  -- one case for each number of bytes; the parts that they carry add up to the code point
  split
  · rename_i hsmall
    have ha : UInt8.ofNat c.toNat < 0x80 := by
      rw [UInt8.lt_iff_toNat_lt, toNat_ofNat (by omega)]
      exact Nat.lt_succ_of_le hsmall
    rw [List.singleton_append, decode_single rest ha, toNat_ofNat (by omega), Char.ofNat_toNat]
  split
  · rename_i hpair
    have hhigh : c.toNat / 64 % 0x20 < 32 := Nat.mod_lt _ (by omega)
    have hlow : c.toNat % 0x40 < 64 := Nat.mod_lt _ (by omega)
    refine decode_pair rest (not_lt_of_le (by omega) (by omega)) ?_
    have hsum : c.toNat / 64 % 0x20 * 64 + c.toNat % 0x40 = c.toNat := by omega
    rw [pair?_ofNat hhigh hlow, hsum, char?_toNat (by omega)]
  split
  · rename_i htriple
    have hhigh : c.toNat / 4096 % 0x10 < 16 := Nat.mod_lt _ (by omega)
    have hmiddle : c.toNat / 64 % 0x40 < 64 := Nat.mod_lt _ (by omega)
    have hlow : c.toNat % 0x40 < 64 := Nat.mod_lt _ (by omega)
    refine decode_triple rest (not_lt_of_le (by omega) (by omega)) (pair?_eq_none ?_) ?_
    · rw [toNat_ofNat (by omega)]
      exact Nat.le_add_left _ _
    · have hsum : (c.toNat / 4096 % 0x10 * 64 + c.toNat / 64 % 0x40) * 64 + c.toNat % 0x40 =
          c.toNat := by omega
      rw [triple?_ofNat hhigh hmiddle hlow, hsum, char?_toNat (by omega)]
  · have hhigh : c.toNat / 262144 % 0x08 < 8 := Nat.mod_lt _ (by omega)
    have hupper : c.toNat / 4096 % 0x40 < 64 := Nat.mod_lt _ (by omega)
    have hmiddle : c.toNat / 64 % 0x40 < 64 := Nat.mod_lt _ (by omega)
    have hlow : c.toNat % 0x40 < 64 := Nat.mod_lt _ (by omega)
    refine decode_quadruple rest (not_lt_of_le (by omega) (by omega)) (pair?_eq_none ?_)
      (triple?_eq_none ?_) ?_
    · rw [toNat_ofNat (by omega)]
      omega
    · rw [toNat_ofNat (by omega)]
      exact Nat.le_add_left _ _
    · have hsum : ((c.toNat / 262144 % 0x08 * 64 + c.toNat / 4096 % 0x40) * 64
          + c.toNat / 64 % 0x40) * 64 + c.toNat % 0x40 = c.toNat := by omega
      rw [quadruple?_ofNat hhigh hupper hmiddle hlow, hsum, char?_toNat (by omega)]

/-- The bytes of a text are read back as its characters. -/
theorem decode_toUTF8 (text : String) : decode text.toUTF8.data.toList = ofText text := by
  have hchars (chars : List Char) :
      decode (chars.flatMap String.utf8EncodeChar) = chars.map .char := by
    induction chars with
    | nil => rfl
    | cons c chars ih => rw [List.flatMap_cons, decode_utf8EncodeChar, ih, List.map_cons]
  have hbytes : text.toUTF8.data.toList = text.toList.flatMap String.utf8EncodeChar := by
    rw [String.toUTF8_eq_toByteArray, ← String.ofList_toList (s := text),
      String.toByteArray_ofList, String.toList_ofList, List.utf8Encode, List.data_toByteArray]
  rw [hbytes, hchars, ofText]

end Questionnaire.Utf8
