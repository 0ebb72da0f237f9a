import Questionnaire.Proofs.Pattern.ClassMember

/-! # Classes as a browser reads them

A browser takes the members of a class one by one and knows 16-bit units alone. A class of a pattern
means the same (`patternMatches_class`) as long as no hyphen is the sign of a range, but for the few
characters on which a member strays. -/

namespace Questionnaire.Pattern

/-! ### In a browser -/

/-- The first 16-bit unit of a character. -/
def firstUnit (c : Char) : Nat :=
  if c.toNat < 0x10000 then c.toNat else 0xd800 + (c.toNat - 0x10000) / 0x400

/-- The last 16-bit unit of a character. -/
def lastUnit (c : Char) : Nat :=
  if c.toNat < 0x10000 then c.toNat else 0xdc00 + (c.toNat - 0x10000) % 0x400

/-- Whether a browser counts a character among those of a shorthand: the digits, letters and
underscore of ASCII, and the white space and line ends of its script language. -/
def Shorthand.contains : Shorthand → Char → Bool
  | digit, c => '0' ≤ c && c ≤ '9'
  | word, c => ('0' ≤ c && c ≤ '9') || ('A' ≤ c && c ≤ 'Z') || ('a' ≤ c && c ≤ 'z') || c == '_'
  | blank, c =>
    ['\t', '\n', '\x0b', '\x0c', '\r', '\u2028', '\u2029', '\ufeff'].contains c
      || Text.inRanges Text.Category.spaceSeparator c

namespace ClassMember

/-- Whether a browser counts a character of one 16-bit unit among those of a member. The ends of a
range are units as well: the last one of its first character and the first one of its last. -/
def inBrowser : ClassMember → Char → Bool
  | literal d _, c => c == d
  | range first last .., c => lastUnit first ≤ c.toNat && c.toNat ≤ firstUnit last
  | hyphen, c => c == '-'
  | shorthand kind negated, c => kind.contains c != negated

/-- Whether a character of one unit is one on which a member and a browser differ: those that only
one of White_Space and the browser's white space has, for what is not white space, and those beyond
the units of a range that ends in a character of two. -/
def strays : ClassMember → Char → Bool
  | range first last .., c => 0x10000 ≤ last.toNat && first ≤ c && 0xe000 ≤ c.toNat
  | shorthand .blank true, c => c == '\u0085' || c == '\ufeff'
  | _, _ => false

end ClassMember

/-! ### Agreement with a browser -/

theorem le_iff_toNat_le {a b : Char} : a ≤ b ↔ a.toNat ≤ b.toNat := Iff.rfl

theorem toNat_valid (c : Char) : c.toNat < 0xd800 ∨ 0xdfff < c.toNat ∧ c.toNat < 0x110000 := c.valid

theorem toNat_ofNat_of_isValidChar {n : Nat} (h : n.isValidChar) : (Char.ofNat n).toNat = n := by
  rw [Char.ofNat, dif_pos h]
  rfl

theorem contains_codeSpan {range : Nat × Nat} (hfirst : range.1.isValidChar)
    (hlast : range.2.isValidChar) (c : Char) :
    (codeSpan range).charSet.contains c =
      (decide (range.1 ≤ c.toNat) && decide (c.toNat ≤ range.2)) := by
  have hfirst' := toNat_ofNat_of_isValidChar hfirst
  have hlast' := toNat_ofNat_of_isValidChar hlast
  unfold codeSpan
  split
  · rename_i heq
    rw [Bool.eq_iff_iff]
    simp only [Span.charSet, Member.charSet, CharSet.contains_single, beq_iff_eq, ← Char.toNat_inj,
      hfirst', ← heq, Bool.and_eq_true, decide_eq_true_eq]
    omega
  · simp only [Span.charSet, CharSet.contains, le_iff_toNat_le, hfirst', hlast']

theorem any_map_codeSpan {ranges : List (Nat × Nat)}
    (h : ∀ range ∈ ranges, range.1.isValidChar ∧ range.2.isValidChar) (c : Char) :
    (ranges.map codeSpan).any (·.charSet.contains c) = Text.inRanges ranges c := by
  induction ranges with
  | nil => rfl
  | cons range ranges ih =>
      rw [List.forall_mem_cons] at h
      rw [List.map_cons, List.any_cons, contains_codeSpan h.1.1 h.1.2, ih h.2]
      rfl

theorem eq_bne_iff {a b c : Bool} :
    a = (b != c) ↔ (a = true ↔ b = true ∧ ¬ c = true ∨ ¬ b = true ∧ c = true) := by
  cases a <;> cases b <;> cases c <;> decide

theorem isBlank_iff (c : Char) : Text.isBlank c = true ↔ 9 ≤ c.toNat ∧ c.toNat ≤ 13 ∨
    c.toNat = 0x20 ∨ c.toNat = 0x85 ∨ c.toNat = 0xa0 ∨ c.toNat = 0x1680 ∨
    0x2000 ≤ c.toNat ∧ c.toNat ≤ 0x200a ∨ c.toNat = 0x2028 ∨ c.toNat = 0x2029 ∨
    c.toNat = 0x202f ∨ c.toNat = 0x205f ∨ c.toNat = 0x3000 := by
  simp [Text.isBlank, le_iff_toNat_le, ← Char.toNat_inj]
  omega

/-- The white space of a browser is White_Space, but for two characters. -/
theorem contains_blank_iff (c : Char) : Shorthand.blank.contains c = true ↔
    Text.isBlank c = true ∧ c ≠ '\u0085' ∨ c = '\ufeff' := by
  rw [isBlank_iff]
  simp [Shorthand.contains, Text.inRanges, Text.Category.spaceSeparator, ← Char.toNat_inj]
  omega

theorem any_contains_spans_digit (negated : Bool) (c : Char) :
    (ClassMember.shorthand .digit negated).spans.any (·.charSet.contains c) =
      (Shorthand.digit.contains c != negated) := by
  cases negated with
  | false => simp [ClassMember.spans, Span.charSet, CharSet.contains, Shorthand.contains]
  | true =>
      have hvalid := toNat_valid c
      rw [ClassMember.spans, any_map_codeSpan (by decide), eq_bne_iff]
      simp [Text.inRanges, codeRanges, Shorthand.contains, le_iff_toNat_le]
      omega

theorem any_contains_spans_word (negated : Bool) (c : Char) :
    (ClassMember.shorthand .word negated).spans.any (·.charSet.contains c) =
      (Shorthand.word.contains c != negated) := by
  cases negated with
  | false =>
      simp [ClassMember.spans, Span.charSet, Member.charSet, CharSet.contains, Shorthand.contains,
        Bool.or_assoc, Bool.beq_comm]
  | true =>
      have hvalid := toNat_valid c
      rw [ClassMember.spans, any_map_codeSpan (by decide), eq_bne_iff]
      simp [Text.inRanges, codeRanges, Shorthand.contains, le_iff_toNat_le, ← Char.toNat_inj]
      omega

theorem any_contains_spans_blank (c : Char) :
    (ClassMember.shorthand .blank false).spans.any (·.charSet.contains c) =
      Shorthand.blank.contains c := by
  rw [ClassMember.spans, any_map_codeSpan (by decide), Bool.eq_iff_iff, contains_blank_iff,
    isBlank_iff]
  simp [Text.inRanges, codeRanges, ← Char.toNat_inj]
  omega

theorem any_contains_spans_notBlank (c : Char) :
    (ClassMember.shorthand .blank true).spans.any (·.charSet.contains c) =
      ((!Shorthand.blank.contains c) != (c == '\u0085' || c == '\ufeff')) := by
  have hspans : (ClassMember.shorthand .blank true).spans.any (·.charSet.contains c) =
      !Text.isBlank c := Bool.or_false _
  rw [hspans, eq_bne_iff]
  simp only [Bool.not_eq_true', ← Bool.not_eq_true, contains_blank_iff, isBlank_iff,
    ← Char.toNat_inj, Bool.or_eq_true, beq_iff_eq, Char.reduceToNat, ne_eq]
  omega

theorem any_contains_spans_range {first last : Char} (hfirst : isLiteral first = true)
    (hlast : isLiteral last = true) (h : first ≤ last) {c : Char} (hc : c.toNat < 0x10000) :
    (ClassMember.range first last hfirst hlast h).spans.any (·.charSet.contains c) =
      ((ClassMember.range first last hfirst hlast h).inBrowser c !=
        (ClassMember.range first last hfirst hlast h).strays c) := by
  have hvalid := toNat_valid c
  have hvalid' := toNat_valid last
  have hspans : (ClassMember.range first last hfirst hlast h).spans.any (·.charSet.contains c) =
      (decide (first.toNat ≤ c.toNat) && decide (c.toNat ≤ last.toNat)) := Bool.or_false _
  -- a character of two units begins with a leading one and ends with a trailing one
  have hlastUnit : first.toNat < 0x10000 ∧ lastUnit first = first.toNat ∨
      0x10000 ≤ first.toNat ∧ 0xdc00 ≤ lastUnit first := by
    unfold lastUnit
    split <;> omega
  have hfirstUnit : last.toNat < 0x10000 ∧ firstUnit last = last.toNat ∨
      0x10000 ≤ last.toNat ∧ 0xd800 ≤ firstUnit last ∧ firstUnit last < 0xdc00 := by
    unfold firstUnit
    split <;> omega
  rw [hspans, eq_bne_iff]
  simp only [ClassMember.inBrowser, ClassMember.strays, Bool.and_eq_true, decide_eq_true_eq,
    le_iff_toNat_le] at h ⊢
  omega

/-- What the engine reads a member as is what a browser does, unless the member strays. -/
theorem any_contains_spans (member : ClassMember) {c : Char} (hc : c.toNat < 0x10000) :
    member.spans.any (·.charSet.contains c) = (member.inBrowser c != member.strays c) := by
  rcases member with ⟨d, h⟩ | ⟨first, last, hfirst, hlast, h⟩ | _ | ⟨_ | _ | _, negated⟩
  case literal =>
    simp [ClassMember.spans, Span.charSet, Member.charSet, ClassMember.inBrowser,
      ClassMember.strays, Bool.beq_comm]
  case range => exact any_contains_spans_range hfirst hlast h hc
  case hyphen =>
    simp [ClassMember.spans, Span.charSet, Member.charSet, ClassMember.inBrowser,
      ClassMember.strays, Bool.beq_comm]
  case shorthand.digit =>
    rw [any_contains_spans_digit]
    exact (Bool.bne_false _).symm
  case shorthand.word =>
    rw [any_contains_spans_word]
    exact (Bool.bne_false _).symm
  case shorthand.blank =>
    cases negated with
    | false =>
        rw [any_contains_spans_blank]
        simp [ClassMember.inBrowser, ClassMember.strays]
    | true =>
        rw [any_contains_spans_notBlank]
        simp [ClassMember.inBrowser, ClassMember.strays]

/-- **A class means what it means in a browser.** Let no two hyphens of a class stand side by side
and none be the sign of a range. Then a character of one unit belongs to the class if a browser
counts it among those of a member, except that the answer of a member is turned round for the
characters on which it strays. -/
theorem patternMatches_class {members : List ClassMember} (hne : members ≠ [])
    (hsingle : hasDoubleHyphen members = false) (hsign : hasSign members = false) {c : Char}
    (hc : c.toNat < 0x10000) :
    patternMatches (classPattern members) (.singleton c) =
        .ok (members.any fun member => member.inBrowser c != member.strays c) ∧
      ((∀ member ∈ members, member.strays c = false) →
        (patternMatches (classPattern members) (.singleton c) = .ok true ↔
          ∃ member ∈ members, member.inBrowser c = true)) := by
  obtain ⟨set, hset, hcontains⟩ := exists_classSet_eq_ok hsign
  have hmatches : patternMatches (classPattern members) (.singleton c) =
      .ok (members.any fun member => member.inBrowser c != member.strays c) := by
    rw [patternMatches_classPattern hne hsingle, hset, Except.map, hcontains]
    simp only [any_contains_spans _ hc]
  refine ⟨hmatches, fun hstrays => ?_⟩
  rw [hmatches, Except.ok.injEq, List.any_eq_true]
  refine exists_congr fun member => and_congr_right fun hmember => ?_
  rw [hstrays member hmember, Bool.bne_false]

/-- A class with a hyphen next to a shorthand and another one at its end. -/
def amountClass : List ClassMember :=
  [.shorthand .digit false, .hyphen, .literal '.' (by decide),
    .range 'a' 'f' (by decide) (by decide) (by decide), .shorthand .blank false, .hyphen]

/-- The hyphen and a blank of browsers belong to the class, the letter after the range does not. -/
theorem patternMatches_class_amountClass :
    patternMatches "^[\\d-.a-f\\s-]$" "-" = .ok true ∧
      patternMatches "^[\\d-.a-f\\s-]$" "\ufeff" = .ok true ∧
      patternMatches "^[\\d-.a-f\\s-]$" "g" = .ok false := by
  have hsingle : hasDoubleHyphen amountClass = false := by decide
  have hmatches (c : Char) (hc : c.toNat < 0x10000) :=
    (patternMatches_class (List.cons_ne_nil _ _) hsingle (by decide) hc).1
  exact ⟨hmatches '-' (by decide), hmatches '\ufeff' (by decide), hmatches 'g' (by decide)⟩

/-- A hyphen between `\w` and a point. -/
def wordClass : List ClassMember :=
  [.shorthand .word false, .hyphen, .literal '.' (by decide)]

/-- A hyphen between a plus sign and `\d`. -/
def signClass : List ClassMember :=
  [.literal '+' (by decide), .hyphen, .shorthand .digit false]

/-- All that is white space and all that is not. -/
def fullClass : List ClassMember := [.shorthand .blank false, .shorthand .blank true]

/-- A browser counts a character among those of a member of each of these classes, and yet the
first is no pattern and the others do not match. -/
theorem exists_class_unlike_browser :
    ((∃ member ∈ wordClass, member.inBrowser '-' = true) ∧
        patternMatches "^[\\w-.]$" "-" = .error .badRange) ∧
      ((∃ member ∈ signClass, member.inBrowser '5' = true) ∧
        patternMatches "^[+-\\d]$" "5" = .ok false) ∧
      ((∃ member ∈ fullClass, member.inBrowser '\u0085' = true) ∧
        patternMatches "^[\\s\\S]$" "\u0085" = .ok false) := by
  refine ⟨⟨⟨.hyphen, by simp [wordClass], rfl⟩, ?_⟩,
    ⟨⟨.shorthand .digit false, by simp [signClass], rfl⟩, ?_⟩,
    ⟨⟨.shorthand .blank true, by simp [fullClass], by decide⟩, ?_⟩⟩
  · have hsingle : hasDoubleHyphen wordClass = false := by decide
    exact patternMatches_classPattern (List.cons_ne_nil _ _) hsingle '-'
  · have hsingle : hasDoubleHyphen signClass = false := by decide
    exact patternMatches_classPattern (List.cons_ne_nil _ _) hsingle '5'
  · have hsingle : hasDoubleHyphen fullClass = false := by decide
    exact patternMatches_classPattern (List.cons_ne_nil _ _) hsingle '\u0085'

end Questionnaire.Pattern
