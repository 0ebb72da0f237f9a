import Questionnaire.Json.Printer
import Questionnaire.Json.Reader

/-! # Quoted texts

A text in quotes is read back as the text (`Json.readString_quote`): every escape is undone,
whatever follows. -/

namespace Questionnaire.Json

/-- Characters as the symbols of a text. -/
def symbols (chars : List Char) : List Symbol := chars.map .char

@[simp] theorem symbols_nil : symbols [] = [] := rfl

@[simp] theorem symbols_cons (c : Char) (chars : List Char) :
    symbols (c :: chars) = .char c :: symbols chars := rfl

@[simp] theorem symbols_append (chars more : List Char) :
    symbols (chars ++ more) = symbols chars ++ symbols more := List.map_append

@[simp] theorem length_symbols (chars : List Char) : (symbols chars).length = chars.length :=
  List.length_map _

/-- The piece of a string that an escaped character is cut into. -/
def pieceOf (c : Char) : Piece :=
  if c < ' ' ∧ c ∉ ['\n', '\r', '\t', '\x08', '\x0c'] then .unit c.toNat else .char c

theorem hexUnit?_hexDigit : ∀ n < 32,
    hexUnit? (.char '0') (.char '0') (.char (hexDigit (n / 16))) (.char (hexDigit n)) = some n := by
  decide

/-- An escaped character is one piece. -/
theorem stringPieces_escapeChar (c : Char) (rest : List Symbol) :
    stringPieces (symbols (escapeChar c) ++ rest) =
      (pieceOf c :: (stringPieces rest).1, (stringPieces rest).2) := by
  unfold escapeChar
  split
  · simp [stringPieces, escaped?, pieceOf]
  · simp [stringPieces, escaped?, pieceOf]
  · simp [stringPieces, escaped?, pieceOf]
  · simp [stringPieces, escaped?, pieceOf]
  · simp [stringPieces, escaped?, pieceOf]
  · simp [stringPieces, escaped?, pieceOf]
  · simp [stringPieces, escaped?, pieceOf]
  · rename_i hquote hbackslash hn hr ht hb hf
    split
    · rename_i hcontrol
      have hlt : c.toNat < 32 := hcontrol
      have hpiece : pieceOf c = .unit c.toNat := by
        simp only [pieceOf, List.mem_cons, List.not_mem_nil, or_false, not_or]
        exact if_pos ⟨hcontrol, hn, hr, ht, hb, hf⟩
      simp [stringPieces, hexUnit?_hexDigit _ hlt, hpiece]
    · rename_i hplain
      have hpiece : pieceOf c = .char c := if_neg fun h => hplain h.1
      rw [hpiece, symbols_cons, symbols_nil, List.singleton_append, stringPieces, if_neg hplain]
      · exact hquote
      -- no escape begins here
      all_goals intros
      all_goals exact hbackslash ‹_›

theorem stringPieces_escaped (chars : List Char) (rest : List Symbol) :
    stringPieces (symbols (chars.flatMap escapeChar) ++ .char '"' :: rest) =
      (chars.map pieceOf, .ok rest) := by
  induction chars with
  | nil => simp [stringPieces]
  | cons c chars ih =>
      rw [List.flatMap_cons, symbols_append, List.append_assoc, stringPieces_escapeChar, ih,
        List.map_cons]

/-- A unit that is no half of a pair is a character of its own. -/
theorem pieceChars_unit {n : Nat} (hn : n < 0xd800) {broken : Option Fault} {rest : List Piece}
    {chars : List Char} {stray : Bool} (hrest : pieceChars broken rest = .ok (chars, stray)) :
    pieceChars broken (.unit n :: rest) = .ok (.ofNat n :: chars, stray) := by
  have htrailing : isTrailing n = false := by
    simp only [isTrailing, Bool.and_eq_false_iff, decide_eq_false_iff_not]
    omega
  have hleading : isLeading n = false := by
    simp only [isLeading, Bool.and_eq_false_iff, decide_eq_false_iff_not]
    omega
  -- the equation to use depends on the piece that comes next
  rcases rest with _ | ⟨_ | _ | _, _⟩ <;> rw [pieceChars] <;>
    simp [htrailing, hleading, hrest, Functor.map, Except.map]

theorem pieceChars_pieceOf (chars : List Char) :
    pieceChars none (chars.map pieceOf) = .ok (chars, false) := by
  induction chars with
  | nil => rfl
  | cons c chars ih =>
      rw [List.map_cons]
      by_cases hcontrol : c < ' ' ∧ c ∉ ['\n', '\r', '\t', '\x08', '\x0c']
      · have hlt : c.toNat < 0xd800 := Nat.lt_trans hcontrol.1 (by decide)
        rw [pieceOf, if_pos hcontrol, pieceChars_unit hlt ih, Char.ofNat_toNat]
      · rw [pieceOf, if_neg hcontrol, pieceChars, ih]
        rfl

/-- A quoted text is read back, up to its closing quote. -/
theorem readString_quote (text : String) (rest : List Symbol) :
    readString (symbols (text.toList.flatMap escapeChar) ++ .char '"' :: rest) =
      (.text text, some rest) := by
  rw [readString, stringPieces_escaped]
  simp only [pieceText, pieceChars_pieceOf]
  exact congrArg (fun s => (Name.text s, some rest)) String.ofList_toList

end Questionnaire.Json
