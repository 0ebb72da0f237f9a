import Questionnaire.Json.Printer
import Questionnaire.Proofs.Json.Strings
import Questionnaire.Proofs.Text.Decimal

/-! # Written numbers

A number of a JSON text has digits, possibly a point with more digits and possibly an exponent
(`NumberLayout`). Before a comma, before a closing bracket and at the end of the text the reader
makes of them what `numberOf?` says, and takes nothing else (`Json.readNumber_text`). Every binary64
number is written in such a layout (`Binary64.exists_layout`), so a number whose text is read back
alone (`Binary64.ReadsBack`) is read back wherever a value ends. -/

namespace Questionnaire

/-- The digits of a number around its point, and the sign and digits of its exponent. -/
structure NumberLayout where
  integer : List Char
  fraction : List Char
  exponent : Option (Bool × List Char)

namespace NumberLayout

/-- The characters of the fraction with its point. -/
def fractionText (layout : NumberLayout) : List Char :=
  if layout.fraction = [] then [] else '.' :: layout.fraction

/-- The characters of the exponent with its mark and sign. -/
def exponentText (layout : NumberLayout) : List Char :=
  match layout.exponent with
  | none => []
  | some (negative, digits) => 'e' :: (if negative then '-' else '+') :: digits

/-- The characters of the number, without its sign. -/
def text (layout : NumberLayout) : List Char :=
  layout.integer ++ (layout.fractionText ++ layout.exponentText)

/-- The exponent of ten. -/
def exponentValue (layout : NumberLayout) : Int :=
  match layout.exponent with
  | none => 0
  | some (true, digits) => -(Decimal.value digits : Int)
  | some (false, digits) => Decimal.value digits

/-- All digits are digits, and only a fraction or an exponent may be missing. -/
structure Valid (layout : NumberLayout) : Prop where
  integer : layout.integer ≠ [] ∧ ∀ c ∈ layout.integer, Decimal.isDigit c = true
  fraction : ∀ c ∈ layout.fraction, Decimal.isDigit c = true
  exponent : ∀ negative digits, layout.exponent = some (negative, digits) →
    digits ≠ [] ∧ ∀ c ∈ digits, Decimal.isDigit c = true

/-- What the number is read as. -/
def node (negative : Bool) (layout : NumberLayout) : Node :=
  Json.numberNode (Json.numberOf? negative (layout.fraction.isEmpty && layout.exponent.isNone)
    layout.integer layout.fraction layout.exponentValue)

end NumberLayout

namespace Json

/-! ### Reading -/

/-- The places where a value may end: the end of the text, a comma or a closing bracket. -/
inductive Delimited : List Symbol → Prop
  | nil : Delimited []
  | comma (rest : List Symbol) : Delimited (.char ',' :: rest)
  | bracket (rest : List Symbol) : Delimited (.char ']' :: rest)
  | brace (rest : List Symbol) : Delimited (.char '}' :: rest)

/-- Digits end where something else begins. -/
def EndsDigits (rest : List Symbol) : Prop := ∀ s, rest.head? = some s → isDigit s = false

theorem Delimited.endsDigits {rest : List Symbol} (h : Delimited rest) : EndsDigits rest := by
  intro s hs
  cases h with
  | nil => cases hs
  | comma | bracket | brace =>
      obtain rfl := Option.some.inj hs
      rfl

theorem leadingDigits_append {digits : List Char} (hdigits : ∀ c ∈ digits, Decimal.isDigit c = true)
    {rest : List Symbol} (hrest : EndsDigits rest) :
    leadingDigits (symbols digits ++ rest) = (digits, rest) := by
  induction digits with
  | nil =>
      match rest with
      | [] => rfl
      | .stray _ :: _ => rfl
      | .char c :: _ =>
          have hc : Decimal.isDigit c = false := hrest _ rfl
          simp [leadingDigits, hc]
  | cons c digits ih =>
      have hc := hdigits c List.mem_cons_self
      have htail := ih fun d hd => hdigits d (List.mem_cons_of_mem _ hd)
      simp [leadingDigits, hc, htail]

theorem endsDigits_char {c : Char} (hc : Decimal.isDigit c = false) (rest : List Symbol) :
    EndsDigits (.char c :: rest) := by
  intro s hs
  obtain rfl := Option.some.inj hs
  exact hc

/-- A sign and digits are read as an exponent. -/
theorem readExponent?_append {negative : Bool} {digits : List Char} (hne : digits ≠ [])
    (hdigits : ∀ c ∈ digits, Decimal.isDigit c = true) {rest : List Symbol}
    (hrest : EndsDigits rest) :
    readExponent? (.char (if negative then '-' else '+') :: (symbols digits ++ rest)) =
      .ok (if negative then -(Decimal.value digits : Int) else Decimal.value digits, rest) := by
  obtain ⟨c, digits, rfl⟩ := List.exists_cons_of_ne_nil hne
  cases negative <;> simp only [readExponent?, if_true, Bool.false_eq_true, if_false] <;>
    rw [leadingDigits_append hdigits hrest]

section text

variable {layout : NumberLayout} (h : layout.Valid) (negative : Bool) {rest : List Symbol}
  (hrest : Delimited rest)
include h hrest

theorem readNumberTail_text :
    readNumberTail negative layout.integer
      (symbols (layout.fractionText ++ layout.exponentText) ++ rest) =
        (layout.node negative, some rest) := by
  obtain ⟨integer, fraction, exponent⟩ := layout
  obtain ⟨-, hfraction, hexponent⟩ := h
  -- the tail is read in two steps, of which each may be left out
  cases fraction with
  | nil =>
      cases exponent with
      | none => cases hrest <;> rfl
      | some exponent =>
          obtain ⟨sign, digits⟩ := exponent
          obtain ⟨hne, hdigits⟩ := hexponent sign digits rfl
          have hread := @readExponent?_append sign digits hne hdigits rest hrest.endsDigits
          show readNumberTail negative integer
            (.char 'e' :: .char (if sign then '-' else '+') :: (symbols digits ++ rest)) = _
          rw [readNumberTail]
          simp only [hread]
          cases sign <;> rfl
  | cons c fraction =>
      cases exponent with
      | none =>
          have hread := leadingDigits_append hfraction hrest.endsDigits
          show readNumberTail negative integer
            (.char '.' :: (symbols (c :: fraction ++ []) ++ rest)) = _
          rw [List.append_nil, readNumberTail, hread]
          cases hrest <;> rfl
      | some exponent =>
          obtain ⟨sign, digits⟩ := exponent
          obtain ⟨hne, hdigits⟩ := hexponent sign digits rfl
          have hexp := @readExponent?_append sign digits hne hdigits rest hrest.endsDigits
          have hmark : Decimal.isDigit 'e' = false := rfl
          have hread := leadingDigits_append hfraction (endsDigits_char hmark
            (.char (if sign then '-' else '+') :: (symbols digits ++ rest)))
          show readNumberTail negative integer (.char '.' :: (symbols (c :: fraction ++
            'e' :: (if sign then '-' else '+') :: digits) ++ rest)) = _
          rw [symbols_append, List.append_assoc]
          show readNumberTail negative integer (.char '.' :: (symbols (c :: fraction) ++
            .char 'e' :: .char (if sign then '-' else '+') :: (symbols digits ++ rest))) = _
          rw [readNumberTail, hread]
          simp only [hexp]
          cases sign <;> rfl

/-- A number is read as it is laid out; one with a leading zero is not read at all. -/
theorem readNumber_text :
    readNumber negative (symbols layout.text ++ rest) =
      match layout.integer with
      | '0' :: _ :: _ => (.badLiteral .invalidNumber (some .invalidNumber), none)
      | _ => (layout.node negative, some rest) := by
  have htail : EndsDigits (symbols (layout.fractionText ++ layout.exponentText) ++ rest) := by
    obtain ⟨integer, fraction, exponent⟩ := layout
    rcases fraction with _ | ⟨c, fraction⟩
    · rcases exponent with _ | ⟨sign, digits⟩
      · exact hrest.endsDigits
      · exact endsDigits_char rfl _
    · exact endsDigits_char rfl _
  have hread := leadingDigits_append h.integer.2 htail
  have htext := readNumberTail_text h negative hrest
  rw [NumberLayout.text, symbols_append, List.append_assoc, readNumber, hread]
  split
  · rename_i hnil
    exact absurd (Prod.mk.inj hnil).1 h.integer.1
  · rename_i hzero
    rw [(Prod.mk.inj hzero).1]
    rfl
  · rename_i hnot hdigits
    obtain ⟨rfl, rfl⟩ := Prod.mk.inj hdigits
    rw [htext]
    split
    · rename_i hzero
      exact (hnot _ _ hzero).elim
    · rfl

end text

/-! ### Naturals -/

theorem le_foldl_digits (digits : List Char) (word : Nat) :
    word ≤ digits.foldl (fun n c => 10 * n + Decimal.digitValue c) word := by
  induction digits generalizing word with
  | nil => exact Nat.le_refl _
  | cons c digits ih =>
      rw [List.foldl_cons]
      exact Nat.le_trans (by omega) (ih _)

/-- Digits whose number fits a word are all taken. -/
theorem takeDigits_eq {digits : List Char} {word : Nat}
    (h : digits.foldl (fun n c => 10 * n + Decimal.digitValue c) word < wordLimit) :
    takeDigits word digits =
      ⟨digits.foldl (fun n c => 10 * n + Decimal.digitValue c) word, digits.length, 0⟩ := by
  induction digits generalizing word with
  | nil => rfl
  | cons c digits ih =>
      rw [List.foldl_cons] at h
      have hnext := Nat.lt_of_le_of_lt (le_foldl_digits digits _) h
      rw [takeDigits]
      simp only [hnext, if_true, ih h]
      rfl

/-- The layout of a natural number. -/
def naturalLayout (n : Nat) : NumberLayout := ⟨Decimal.print n, [], none⟩

theorem valid_naturalLayout (n : Nat) : (naturalLayout n).Valid where
  integer := ⟨Decimal.print_ne_nil n, fun _ => Decimal.isDigit_of_mem_print⟩
  fraction := by simp [naturalLayout]
  exponent := by simp [naturalLayout]

theorem text_naturalLayout (n : Nat) : (naturalLayout n).text = Decimal.print n :=
  List.append_nil _

/-- The digits of a natural number are read as an integer. -/
theorem readNumber_print (negative : Bool) (n : Nat) {rest : List Symbol} (hrest : Delimited rest) :
    readNumber negative (symbols (Decimal.print n) ++ rest) =
      (numberNode (numberOf? negative true (Decimal.print n) [] 0), some rest) := by
  have hread := readNumber_text (valid_naturalLayout n) negative hrest
  rw [text_naturalLayout] at hread
  rw [hread]
  split
  · rename_i hzero
    have hdigits : Decimal.print n = _ := hzero
    have hlead := (Decimal.canonical_print n).leading (congrArg List.head? hdigits)
    rw [hdigits] at hlead
    cases hlead
  · rfl

theorem takeDigits_print {n : Nat} (hn : n < wordLimit) :
    takeDigits 0 (Decimal.print n) = ⟨n, (Decimal.print n).length, 0⟩ := by
  have hvalue : Decimal.value (Decimal.print n) = n := Decimal.value_print n
  have htaken := @takeDigits_eq (Decimal.print n) 0
  rw [← Decimal.value, hvalue] at htaken
  exact htaken hn

theorem numberOf?_print {n : Nat} (hn : n < wordLimit) :
    numberOf? false true (Decimal.print n) [] 0 = some (.natural n) := by
  simp [numberOf?, takeDigits_print hn]

theorem numberOf?_print_negative {n : Nat} (hpos : 0 < n) (hn : n ≤ wordLimit / 2) :
    numberOf? true true (Decimal.print n) [] 0 = some (.negative n) := by
  have hlt : n < wordLimit := Nat.lt_of_le_of_lt hn (by decide)
  simp [numberOf?, takeDigits_print hlt, hpos, hn]

/-- A value that begins with a digit is a number. -/
theorem readValue_digit {c : Char} (hc : Decimal.isDigit c = true) (fuel nesting : Nat)
    (rest : List Symbol) :
    readValue (fuel + 1) nesting (.char c :: rest) = readNumber false (.char c :: rest) := by
  have hdigit : ∀ n < 10, readValue (fuel + 1) nesting (.char n.digitChar :: rest) =
      readNumber false (.char n.digitChar :: rest) := by
    intro n hn
    have hcases : n = 0 ∨ n = 1 ∨ n = 2 ∨ n = 3 ∨ n = 4 ∨
        n = 5 ∨ n = 6 ∨ n = 7 ∨ n = 8 ∨ n = 9 := by
      omega
    rw [readValue]
    rcases hcases with rfl | rfl | rfl | rfl | rfl | rfl | rfl | rfl | rfl | rfl <;> rfl
  have hprint := (Decimal.print_digitValue hc).symm
  rw [Decimal.print_of_lt (Decimal.digitValue_lt hc), List.cons.injEq] at hprint
  rw [hprint.1]
  exact hdigit _ (Decimal.digitValue_lt hc)

end Json

/-! ### Binary64 numbers -/

namespace Binary64

variable {d : DecimalFloat}

theorem exists_layout_scientific (d : DecimalFloat) :
    ∃ layout : NumberLayout, layout.Valid ∧ scientific d = layout.text := by
  have hdigits : ∀ c ∈ Decimal.print d.digits, Decimal.isDigit c = true := fun _ =>
    Decimal.isDigit_of_mem_print
  obtain ⟨c, rest, hprint⟩ := List.exists_cons_of_ne_nil (Decimal.print_ne_nil d.digits)
  rw [hprint, List.forall_mem_cons] at hdigits
  let exponent : Int := d.exponent + ((c :: rest).length - 1 : Nat)
  refine ⟨⟨[c], rest, some (decide (exponent < 0), Decimal.print exponent.natAbs)⟩,
    ⟨⟨List.cons_ne_nil _ _, List.forall_mem_singleton.2 hdigits.1⟩, hdigits.2, ?_⟩, ?_⟩
  · rintro negative digits hexponent
    obtain ⟨-, rfl⟩ := Prod.mk.inj (Option.some.inj hexponent)
    exact ⟨Decimal.print_ne_nil _, fun _ => Decimal.isDigit_of_mem_print⟩
  · unfold scientific NumberLayout.text NumberLayout.fractionText NumberLayout.exponentText
    simp only [hprint, decide_eq_true_eq]
    cases rest <;> rfl

theorem exists_layout_integer (hexponent : 0 ≤ d.exponent) :
    ∃ layout : NumberLayout, layout.Valid ∧ positional d ++ ['.', '0'] = layout.text := by
  refine ⟨⟨Decimal.print d.digits ++ List.replicate d.exponent.toNat '0', ['0'], none⟩,
    ⟨⟨?_, fun c hc => ?_⟩, List.forall_mem_singleton.2 rfl, by simp⟩, ?_⟩
  · exact List.append_ne_nil_of_left_ne_nil (Decimal.print_ne_nil _) _
  · rcases List.mem_append.1 hc with hc | hc
    · exact Decimal.isDigit_of_mem_print hc
    · rw [List.eq_of_mem_replicate hc]
      rfl
  · rw [positional, if_pos hexponent]
    rfl

theorem exists_layout_fraction (hexponent : d.exponent < 0) :
    ∃ layout : NumberLayout, layout.Valid ∧ positional d = layout.text := by
  have hdigits : ∀ c ∈ Decimal.print d.digits, Decimal.isDigit c = true := fun _ =>
    Decimal.isDigit_of_mem_print
  have hlength : 0 < (Decimal.print d.digits).length :=
    List.length_pos_iff.2 (Decimal.print_ne_nil _)
  have htext {integer fraction : List Char} (hne : fraction ≠ []) :
      (NumberLayout.mk integer fraction none).text = integer ++ '.' :: fraction := by
    rw [NumberLayout.text, NumberLayout.fractionText, if_neg hne]
    exact congrArg _ (List.append_nil _)
  unfold positional
  rw [if_neg (Int.not_le.2 hexponent)]
  dsimp only
  split
  · -- nothing but zeros before the digits
    have hne : List.replicate ((-d.exponent).toNat - (Decimal.print d.digits).length) '0'
        ++ Decimal.print d.digits ≠ [] :=
      List.append_ne_nil_of_right_ne_nil _ (Decimal.print_ne_nil _)
    refine ⟨⟨['0'], _, none⟩, ⟨⟨List.cons_ne_nil _ _, List.forall_mem_singleton.2 rfl⟩,
      fun c hc => ?_, by simp⟩, (@htext ['0'] _ hne).symm⟩
    rcases List.mem_append.1 hc with hc | hc
    · rw [List.eq_of_mem_replicate hc]
      rfl
    · exact hdigits c hc
  · have hplaces : 0 < (-d.exponent).toNat := by omega
    have hne : (Decimal.print d.digits).drop
        ((Decimal.print d.digits).length - (-d.exponent).toNat) ≠ [] := by
      rw [Ne, List.drop_eq_nil_iff]
      omega
    refine ⟨⟨_, _, none⟩, ⟨⟨?_, fun c hc => hdigits c (List.mem_of_mem_take hc)⟩,
      fun c hc => hdigits c (List.mem_of_mem_drop hc), by simp⟩, (htext hne).symm⟩
    rw [Ne, List.take_eq_nil_iff]
    rintro (hzero | hnil)
    · omega
    · exact Decimal.print_ne_nil _ hnil

/-- Every number is written as a JSON number. -/
theorem exists_layout (x : Binary64) :
    ∃ layout : NumberLayout, layout.Valid ∧ x.jsonText = x.signText ++ layout.text := by
  have hbody : ∃ layout : NumberLayout, layout.Valid ∧
      (if (x.shortest .even).exponent + (digitCount (x.shortest .even).digits - 1 : Nat) < -5 ||
          16 ≤ (x.shortest .even).exponent + (digitCount (x.shortest .even).digits - 1 : Nat) then
        scientific (x.shortest .even)
      else if 0 ≤ (x.shortest .even).exponent then positional (x.shortest .even) ++ ['.', '0']
      else positional (x.shortest .even)) = layout.text := by
    split
    · exact exists_layout_scientific _
    · split
      · rename_i hexponent
        exact exists_layout_integer hexponent
      · rename_i hexponent
        exact exists_layout_fraction (Int.not_le.1 hexponent)
  obtain ⟨layout, hvalid, hlayout⟩ := hbody
  exact ⟨layout, hvalid, by rw [← hlayout]; rfl⟩

/-- Whether the text of the number is read back as the number. -/
def ReadsBack (x : Binary64) : Prop :=
  Json.readText (.ofList x.jsonText) = ⟨.number (.double x), false⟩

theorem readValue_jsonText_append {x : Binary64} {layout : NumberLayout} (hvalid : layout.Valid)
    (hlayout : x.jsonText = x.signText ++ layout.text) (fuel nesting : Nat) (rest : List Symbol) :
    Json.readValue (fuel + 1) nesting (Json.symbols x.jsonText ++ rest) =
      Json.readNumber x.negative (Json.symbols layout.text ++ rest) := by
  rw [hlayout, signText]
  cases x.negative with
  | true => rw [if_pos rfl, Json.readValue]; rfl
  | false =>
      obtain ⟨c, integer, hinteger⟩ := List.exists_cons_of_ne_nil hvalid.integer.1
      have hc := hvalid.integer.2 c (hinteger ▸ List.mem_cons_self)
      simp only [NumberLayout.text, hinteger, Bool.false_eq_true, if_false, List.nil_append,
        List.cons_append, Json.symbols_cons]
      exact Json.readValue_digit hc _ _ _

/-- A number is read back if what follows its sign is. -/
theorem readsBack_iff {x : Binary64} {layout : NumberLayout} (hvalid : layout.Valid)
    (hlayout : x.jsonText = x.signText ++ layout.text) : x.ReadsBack ↔
      Json.readNumber x.negative (Json.symbols layout.text) = (.number (.double x), some []) := by
  have halone : Json.readValue (3 * (Json.symbols x.jsonText).length + 3) 1
      (Json.symbols x.jsonText ++ []) =
        Json.readNumber x.negative (Json.symbols layout.text ++ []) :=
    readValue_jsonText_append hvalid hlayout _ _ _
  have hnumber := Json.readNumber_text hvalid x.negative .nil
  simp only [List.append_nil] at halone hnumber
  unfold ReadsBack Json.readText Json.readSymbols Utf8.ofText
  rw [String.toList_ofList, ← Json.symbols, halone]
  -- digits after a leading zero are no number
  split at hnumber
  · rw [hnumber]
    simp
  · rw [hnumber]
    simp [Json.skipBlanks]

/-- A number that is read back alone is read back wherever a value may end. -/
theorem ReadsBack.readValue {x : Binary64} (h : x.ReadsBack) (fuel nesting : Nat)
    {rest : List Symbol} (hrest : Json.Delimited rest) :
    Json.readValue (fuel + 1) nesting (Json.symbols x.jsonText ++ rest) =
      (.number (.double x), some rest) := by
  obtain ⟨layout, hvalid, hlayout⟩ := exists_layout x
  have halone := (readsBack_iff hvalid hlayout).1 h
  rw [← List.append_nil (Json.symbols _), Json.readNumber_text hvalid x.negative .nil] at halone
  rw [readValue_jsonText_append hvalid hlayout, Json.readNumber_text hvalid x.negative hrest]
  split at halone
  · cases halone
  · rw [(Prod.mk.inj halone).1]

/-- The number one is written as `1.0` and read back. -/
theorem readsBack_one : (ofNat 1).ReadsBack := by
  have hvalid : NumberLayout.Valid ⟨['1'], ['0'], none⟩ :=
    ⟨⟨List.cons_ne_nil _ _, List.forall_mem_singleton.2 rfl⟩,
      List.forall_mem_singleton.2 rfl, nofun⟩
  exact (readsBack_iff hvalid (by decide +kernel)).2 rfl

end Binary64

end Questionnaire
