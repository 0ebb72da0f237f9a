import Questionnaire.Pattern.Basic
import Questionnaire.Pattern.Bracket

/-! # What the members of a class describe

A class without joints and nested classes is read in two steps. `Scans` says which members a piece
of its text becomes, whatever follows it. `classSet` is the set that such members describe, read
from the left without a bound on the recursion (`ofMembers_eq_classSet`); a row of spans is read
span by span, unless a hyphen comes after one that ends in a single member
(`readSpans_spans`). -/

namespace Questionnaire.Pattern

/-! ### Scanning -/

/-- Whether a character inside a class is neither a bracket nor a backslash. -/
def isVerbatim (c : Char) : Bool := c != '\\' && c != '[' && c != ']'

/-- A text at the top of a class is scanned as some members, whatever follows it. -/
structure Scans (text : List Char) (members : List Member) : Prop where
  length_le : members.length ≤ text.length
  scan (fuel : Nat) (rest : List Char) :
    scanMembers false (fuel + members.length) 1 (text ++ rest) =
      (scanMembers false fuel 1 rest).map fun scanned => (members ++ scanned.1, scanned.2)

namespace Scans

theorem nil : Scans [] [] where
  length_le := Nat.le_refl _
  scan fuel rest := by
    cases h : scanMembers false fuel 1 rest <;> simp [h, Except.map]

theorem append {first second : List Char} {members more : List Member} (h : Scans first members)
    (h' : Scans second more) : Scans (first ++ second) (members ++ more) where
  length_le := by
    have hfirst := h.length_le
    have hsecond := h'.length_le
    grind
  scan fuel rest := by
    rw [List.append_assoc, List.length_append, Nat.add_comm members.length, ← Nat.add_assoc, h.scan,
      h'.scan]
    cases scanMembers false fuel 1 rest <;> simp [Except.map]

theorem flatMap {α : Type} {text : α → List Char} {members : α → List Member} {items : List α}
    (h : ∀ a ∈ items, Scans (text a) (members a)) :
    Scans (items.flatMap text) (items.flatMap members) := by
  induction items with
  | nil => exact nil
  | cons a items ih =>
      rw [List.forall_mem_cons] at h
      exact h.1.append (ih h.2)

/-- A character that is no bracket and no backslash is a member. -/
theorem plain {c : Char} (h : isVerbatim c = true) : Scans [c] [.plain c] where
  length_le := Nat.le_refl _
  scan fuel rest := by
    simp only [isVerbatim, Bool.and_eq_true, bne_iff_ne] at h
    obtain ⟨⟨hbackslash, hopen⟩, hclose⟩ := h
    rw [List.length_singleton, List.singleton_append, scanMembers]
    · simp only [hclose, hopen, decide_false, Bool.false_and, Bool.false_eq_true, if_false]
      cases scanMembers false fuel 1 rest <;> rfl
    · simp [hbackslash]
    · simp [hbackslash]

theorem map_plain {text : List Char} (h : text.all isVerbatim = true) :
    Scans text (text.map .plain) := by
  induction text with
  | nil => exact nil
  | cons c text ih =>
      rw [List.all_cons, Bool.and_eq_true] at h
      exact append (plain h.1) (ih h.2)

/-- An escape is what it stands for. -/
theorem escape {c : Char} {text : List Char} {member : Member}
    (h : ∀ rest, classEscape false c (text ++ rest) = .ok ([member], rest)) :
    Scans ('\\' :: c :: text) [member] where
  length_le := by simp
  scan fuel rest := by
    rw [List.length_singleton, List.cons_append, List.cons_append, scanMembers, h]
    simp only [bind, Except.bind]
    cases scanMembers false fuel 1 rest <;> rfl

/-- A class is scanned up to its closing bracket. -/
theorem scanClass {text : List Char} {members : List Member} (h : Scans text members)
    (hfront : ∃ c more, text = c :: more ∧ c ≠ '^' ∧ c ≠ ']') (rest : List Char) :
    scanClass false (text ++ ']' :: rest) = .ok (members ++ [.plain ']'], rest) := by
  obtain ⟨c, more, rfl, hcaret, hclose⟩ := hfront
  obtain ⟨fuel, hfuel⟩ : ∃ fuel, (c :: more ++ ']' :: rest).length + 1 =
      fuel + 1 + members.length := by
    have hlength := h.length_le
    exact ⟨(c :: more).length - members.length + (rest.length + 1), by grind⟩
  have hend : scanMembers false (fuel + 1) 1 (']' :: rest) = .ok ([.plain ']'], rest) := by
    rw [scanMembers]
    · rfl
    all_goals simp
  have hscan : scanMembers false ((c :: more ++ ']' :: rest).length + 1) 1
      (c :: more ++ ']' :: rest) = .ok (members ++ [.plain ']'], rest) := by
    rw [hfuel, h.scan, hend]
    rfl
  rw [List.cons_append] at hscan ⊢
  unfold Pattern.scanClass
  -- neither a caret nor a bracket stands in front
  split
  rename_i caret afterCaret hafterCaret
  split at hafterCaret
  · rename_i heq
    exact absurd (List.cons.inj heq).1 hcaret
  obtain ⟨rfl, rfl⟩ := Prod.mk.inj hafterCaret
  split
  rename_i bracket afterBracket hafterBracket
  split at hafterBracket
  · rename_i heq
    exact absurd (List.cons.inj heq).1 hclose
  obtain ⟨rfl, rfl⟩ := Prod.mk.inj hafterBracket
  rw [hscan]
  rfl

end Scans

/-- The digits of a code point, as escapes write them. -/
def hexDigits (n : Nat) : List Char := (Nat.toDigits 16 n).map Char.toUpper

/-- A code point whose escape is read back. -/
def isWritable (n : Nat) : Bool :=
  let digits := hexDigits n
  digits.all (hexValue? · |>.isSome) && hexNumber? digits == some n
    && 0 < digits.length && digits.length ≤ 8 && n.isValidChar

theorem readCode_hexDigits {n : Nat} (h : isWritable n = true) (rest : List Char) :
    readCode 2 ('{' :: (hexDigits n ++ '}' :: rest)) = .ok (.ofNat n, rest) := by
  simp only [isWritable, Bool.and_eq_true, beq_iff_eq, decide_eq_true_eq, List.all_eq_true] at h
  obtain ⟨⟨⟨⟨hhex, hvalue⟩, hpos⟩, hlength⟩, hvalid⟩ := h
  have hbrace : hexNumber? (('{' :: (hexDigits n ++ '}' :: rest)).take 2) = none := rfl
  have htake : (hexDigits n ++ '}' :: rest).takeWhile (hexValue? · |>.isSome) = hexDigits n := by
    rw [List.takeWhile_append_of_pos hhex, List.takeWhile_cons_of_neg (by decide), List.append_nil]
  have hdrop : (hexDigits n ++ '}' :: rest).dropWhile (hexValue? · |>.isSome) = '}' :: rest := by
    rw [List.dropWhile_append_of_pos hhex, List.dropWhile_cons_of_neg (by decide)]
  simp only [readCode, hbrace, readBraced, htake, hdrop, hvalue, hpos, hlength, charOfCode, hvalid,
    decide_true, Bool.and_self, if_true]
  rfl

theorem Scans.codeEscape {n : Nat} (h : isWritable n = true) :
    Scans (codeEscape n) [.escaped (.ofNat n)] := by
  have hread (rest : List Char) :
      classEscape false 'x' (('{' :: (hexDigits n ++ ['}'])) ++ rest) =
        .ok ([.escaped (.ofNat n)], rest) := by
    rw [List.cons_append, List.append_assoc, List.singleton_append, classEscape, codeDigits?]
    simp only [readCode_hexDigits h, bind, Except.bind]
    rfl
  exact .escape hread

/-! ### Reading -/

/-- The members that stand for themselves wherever they are. -/
def Member.isOrdinary : Member → Bool
  | .plain c => !List.contains ['^', '[', ']', '&', '~', '-'] c
  | _ => true

/-- The set that is made of `current` and the members of a class, none of which is a joint or a
bracket. -/
def readSpans (current : CharSet) : List Member → Except PatternError CharSet
  | [] => .ok current
  | .plain '-' :: rest => readSpans (.union current (.single '-')) rest
  | first :: .plain '-' :: last :: rest => do
    readSpans (.union current (← rangeOf first last)) rest
  | first :: rest => readSpans (.union current first.charSet) rest

/-- A hyphen in front of a class, and the members after it. -/
def classFront : List Member → CharSet × List Member
  | .plain '-' :: rest => (.single '-', rest)
  | members => (.empty, members)

/-- The set of a class whose members are no joints and no brackets. -/
def classSet (members : List Member) : Except PatternError CharSet :=
  readSpans (classFront members).1 (classFront members).2

/-- Members that are ordinary or a hyphen, with no hyphen beside another one. -/
inductive Flat : List Member → Prop
  | nil : Flat []
  | ordinary {member : Member} {rest : List Member} (h : member.isOrdinary = true)
      (hrest : Flat rest) : Flat (member :: rest)
  | sign {rest : List Member} (h : ∀ more, rest ≠ .plain '-' :: more) (hrest : Flat rest) :
      Flat (.plain '-' :: rest)

theorem readMembers_of_ordinary {member : Member} (h : member.isOrdinary = true) (fuel : Nat)
    (current : CharSet) (rest : List Member) :
    readMembers false (fuel + 1) none current (member :: rest) =
      (readItem member rest).bind fun item =>
        readMembers false fuel none (.union current item.1) item.2 := by
  rw [readMembers]
  · rfl
  all_goals
    intros
    subst_vars
    exact absurd h (by decide)

theorem readMembers_of_sign (fuel : Nat) (current : CharSet) {rest : List Member}
    (h : ∀ more, rest ≠ .plain '-' :: more) :
    readMembers false (fuel + 1) none current (.plain '-' :: rest) =
      (readItem (.plain '-') rest).bind fun item =>
        readMembers false fuel none (.union current item.1) item.2 := by
  rw [readMembers]
  · rfl
  all_goals grind

/-- No hyphen with a member after it comes next. -/
def EndsSpan (rest : List Member) : Prop := ∀ last more, rest ≠ .plain '-' :: last :: more

theorem readItem_append (member : Member) {rest : List Member} (h : EndsSpan rest) :
    readItem member (rest ++ [.plain ']']) = .ok (member.charSet, rest ++ [.plain ']']) := by
  rcases rest with _ | ⟨first, _ | ⟨second, rest⟩⟩
  · rfl
  · by_cases hfirst : first = .plain '-'
    · subst hfirst
      rfl
    · rw [readItem]
      all_goals grind
  · have hfirst : first ≠ .plain '-' := fun heq => h second rest (by rw [heq])
    rw [readItem]
    all_goals grind

theorem readItem_range (first : Member) {last : Member} (h : last.isOrdinary = true)
    (rest : List Member) :
    readItem first (.plain '-' :: last :: rest) =
      (rangeOf first last).map fun set => (set, rest) := by
  rw [readItem]
  · cases rangeOf first last <;> rfl
  all_goals
    intros
    subst_vars
    exact absurd h (by decide)

theorem Flat.isOrdinary {member : Member} {rest : List Member} (h : Flat (member :: rest))
    (hmember : member ≠ .plain '-') : member.isOrdinary = true := by
  cases h with
  | ordinary h _ => exact h
  | sign _ _ => exact absurd rfl hmember

theorem Flat.tail {member : Member} {rest : List Member} (h : Flat (member :: rest)) :
    Flat rest := by
  cases h with
  | ordinary _ hrest => exact hrest
  | sign _ hrest => exact hrest

theorem Flat.ne_sign {rest more : List Member} (h : Flat (.plain '-' :: rest)) :
    rest ≠ .plain '-' :: more := by
  cases h with
  | ordinary h _ => exact absurd h (by decide)
  | sign h _ => exact h more

theorem append_ne_sign {rest : List Member} (h : ∀ more, rest ≠ .plain '-' :: more)
    (more : List Member) : rest ++ [.plain ']'] ≠ .plain '-' :: more := fun heq => by
  cases rest with
  | nil => simp at heq
  | cons member rest => exact h rest (congrArg (· :: rest) (List.cons.inj heq).1)

/-- Members are read as `readSpans` reads them, up to the closing bracket. -/
theorem readMembers_eq_readSpans {members : List Member} (h : Flat members) {fuel : Nat}
    (hfuel : members.length < fuel) (current : CharSet) :
    readMembers false fuel none current (members ++ [.plain ']']) =
      (readSpans current members).map fun set => (set, []) := by
  -- each step takes at least one member and one unit of fuel
  fun_induction readSpans current members generalizing fuel with
  | case1 current =>
      obtain ⟨fuel, rfl⟩ := Nat.exists_eq_add_of_lt hfuel
      rfl
  | case2 current rest ih =>
      obtain ⟨fuel, rfl⟩ := Nat.exists_eq_add_of_lt hfuel
      have hrest : EndsSpan rest := fun _ _ => h.ne_sign
      rw [List.cons_append, readMembers_of_sign _ _ (append_ne_sign fun _ => h.ne_sign),
        readItem_append _ hrest]
      exact ih h.tail (by grind)
  | case3 current first last rest hfirst ih =>
      obtain ⟨fuel, rfl⟩ := Nat.exists_eq_add_of_lt hfuel
      have hlast : last.isOrdinary = true := h.tail.tail.isOrdinary fun heq =>
        h.tail.ne_sign (congrArg (· :: rest) heq)
      rw [List.cons_append, List.cons_append, List.cons_append,
        readMembers_of_ordinary (h.isOrdinary hfirst), readItem_range _ hlast]
      cases rangeOf first last with
      | error _ => rfl
      | ok set => exact ih set h.tail.tail.tail (by grind)
  | case4 current first rest hfirst hrest ih =>
      obtain ⟨fuel, rfl⟩ := Nat.exists_eq_add_of_lt hfuel
      rw [List.cons_append, readMembers_of_ordinary (h.isOrdinary hfirst),
        readItem_append _ hrest]
      exact ih h.tail (by grind)

theorem ne_sign_of_isOrdinary {member : Member} (h : member.isOrdinary = true) :
    member ≠ .plain '-' := fun heq => absurd (heq ▸ h) (by decide)

theorem classFront_of_isOrdinary {member : Member} (h : member.isOrdinary = true)
    (rest : List Member) : classFront (member :: rest) = (.empty, member :: rest) := by
  rw [classFront]
  exact fun _ heq => ne_sign_of_isOrdinary h (List.cons.inj heq).1

theorem takeHyphens_of_ne {members : List Member} (h : ∀ more, members ≠ .plain '-' :: more) :
    takeHyphens members = (false, members) := by
  rw [takeHyphens]
  exact h

theorem readFront_append {members : List Member} (h : Flat members) (hne : members ≠ []) :
    readFront (members ++ [.plain ']']) =
      ((classFront members).1, (classFront members).2 ++ [.plain ']']) := by
  cases h with
  | nil => exact absurd rfl hne
  | @ordinary member rest h _ =>
      have hhyphens : takeHyphens (member :: (rest ++ [.plain ']'])) =
          (false, member :: (rest ++ [.plain ']'])) :=
        takeHyphens_of_ne fun _ heq => ne_sign_of_isOrdinary h (List.cons.inj heq).1
      rw [classFront_of_isOrdinary h, List.cons_append, readFront, hhyphens]
      grind [Member.isOrdinary]
  | @sign rest h _ =>
      have hhyphens : takeHyphens (rest ++ [.plain ']']) = (false, rest ++ [.plain ']']) :=
        takeHyphens_of_ne (append_ne_sign h)
      rw [List.cons_append, readFront, takeHyphens, hhyphens]
      rfl

theorem readClass_append {members : List Member} (h : Flat members) (hne : members ≠ [])
    (fuel : Nat) :
    readClass false (fuel + 1) (members ++ [.plain ']']) =
      readMembers false fuel none (classFront members).1
        ((classFront members).2 ++ [.plain ']']) := by
  have hfront := readFront_append h hne
  rw [readClass]
  · rw [hfront]
    dsimp only
    cases readMembers false fuel none (classFront members).1
        ((classFront members).2 ++ [.plain ']']) <;> rfl
  · -- no caret in front
    rintro rest heq
    cases h with
    | nil => exact absurd rfl hne
    | ordinary h _ => exact absurd ((List.cons.inj heq).1 ▸ h) (by decide)
    | sign _ _ => simp at heq

theorem ofMembers_eq_classSet {members : List Member} (h : Flat members) (hne : members ≠ []) :
    CharSet.ofMembers false (members ++ [.plain ']']) =
      (classSet members).map fun set => (set, []) := by
  have hrest : Flat (classFront members).2 ∧
      (classFront members).2.length ≤ members.length := by
    cases h with
    | nil => exact absurd rfl hne
    | ordinary h hrest =>
        rw [classFront_of_isOrdinary h]
        exact ⟨.ordinary h hrest, Nat.le_refl _⟩
    | sign h hrest => exact ⟨hrest, Nat.le_succ _⟩
  rw [CharSet.ofMembers, readClass_append h hne]
  exact readMembers_eq_readSpans hrest.1 (by grind) _

/-! ### Spans -/

/-- A character as it is written, or as an escape. -/
def Member.ofChar (isEscaped : Bool) (c : Char) : Member :=
  if isEscaped then .escaped c else .plain c

/-- What stands for itself in a class: a member, or a range between two characters. -/
inductive Span where
  | single (member : Member)
  | range (isEscaped : Bool) (first last : Char)

namespace Span

/-- The members that a span is written with. -/
def members : Span → List Member
  | single member => [member]
  | range isEscaped first last => [.ofChar isEscaped first, .plain '-', .ofChar isEscaped last]

/-- The set that a span describes. -/
def charSet : Span → CharSet
  | single member => member.charSet
  | range _ first last => .range first last

/-- The members of a span are ordinary and a range is in order. -/
def isSound : Span → Bool
  | single member => member.isOrdinary
  | range isEscaped first last =>
    (Member.ofChar isEscaped first).isOrdinary && (Member.ofChar isEscaped last).isOrdinary
      && first ≤ last

/-- Whether a hyphen after the span is read as the sign of a range. -/
def isOpen : Span → Bool
  | single _ => true
  | range .. => false

end Span

theorem rangeOf_ofChar (isEscaped : Bool) {first last : Char} (h : first ≤ last) :
    rangeOf (.ofChar isEscaped first) (.ofChar isEscaped last) = .ok (.range first last) := by
  cases isEscaped <;> exact if_pos h

theorem readSpans_span {span : Span} (h : span.isSound = true) {rest : List Member}
    (hrest : span.isOpen = true → EndsSpan rest) (current : CharSet) :
    readSpans current (span.members ++ rest) = readSpans (.union current span.charSet) rest := by
  cases span with
  | single member =>
      rw [Span.members, List.singleton_append, readSpans]
      · rfl
      · exact ne_sign_of_isOrdinary h
      · exact hrest rfl
  | range isEscaped first last =>
      simp only [Span.isSound, Bool.and_eq_true, decide_eq_true_eq] at h
      rw [Span.members, List.cons_append, List.cons_append, List.singleton_append, readSpans,
        rangeOf_ofChar isEscaped h.2]
      · rfl
      · exact ne_sign_of_isOrdinary h.1.1

/-- The set that is made of `current` and the sets of some spans. -/
def unionSpans (current : CharSet) (spans : List Span) : CharSet :=
  spans.foldl (fun set span => .union set span.charSet) current

theorem contains_unionSpans (current : CharSet) (spans : List Span) (c : Char) :
    (unionSpans current spans).contains c =
      (current.contains c || spans.any (·.charSet.contains c)) := by
  induction spans generalizing current with
  | nil => simp [unionSpans]
  | cons span spans ih =>
      rw [List.any_cons, ← Bool.or_assoc]
      exact ih (.union current span.charSet)

/-- A span begins with an ordinary member. -/
theorem exists_members_eq_cons {span : Span} (h : span.isSound = true) :
    ∃ first others, span.members = first :: others ∧ first.isOrdinary = true := by
  cases span with
  | single member => exact ⟨member, [], rfl, h⟩
  | range isEscaped first last =>
      simp only [Span.isSound, Bool.and_eq_true] at h
      exact ⟨_, _, rfl, h.1.1⟩

/-- Spans are read one by one. -/
theorem readSpans_spans {spans : List Span} (h : ∀ span ∈ spans, span.isSound = true)
    {rest : List Member} (hrest : spans.getLast?.any Span.isOpen = true → EndsSpan rest)
    (current : CharSet) :
    readSpans current (spans.flatMap Span.members ++ rest) =
      readSpans (unionSpans current spans) rest := by
  induction spans generalizing current with
  | nil => rfl
  | cons span spans ih =>
      rw [List.forall_mem_cons] at h
      have hnext : span.isOpen = true → EndsSpan (spans.flatMap Span.members ++ rest) := by
        cases spans with
        | nil => exact hrest
        | cons next spans =>
            intro _ last more heq
            obtain ⟨first, others, hmembers, hfirst⟩ := exists_members_eq_cons (h.2 next (by simp))
            rw [List.flatMap_cons, hmembers] at heq
            exact ne_sign_of_isOrdinary hfirst (List.cons.inj heq).1
      rw [List.flatMap_cons, List.append_assoc, readSpans_span h.1 hnext]
      refine ih h.2 (fun hopen => hrest ?_) _
      cases spans with
      | nil => simp at hopen
      | cons next spans => rwa [List.getLast?_cons_cons]

theorem Flat.span_append {span : Span} (h : span.isSound = true) {rest : List Member}
    (hrest : Flat rest) : Flat (span.members ++ rest) := by
  cases span with
  | single member => exact .ordinary h hrest
  | range isEscaped first last =>
      simp only [Span.isSound, Bool.and_eq_true] at h
      refine .ordinary h.1.1 (.sign (fun more heq => ?_) (.ordinary h.1.2 hrest))
      exact ne_sign_of_isOrdinary h.1.2 (List.cons.inj heq).1

theorem Flat.spans_append {spans : List Span} (h : ∀ span ∈ spans, span.isSound = true)
    {rest : List Member} (hrest : Flat rest) : Flat (spans.flatMap Span.members ++ rest) := by
  induction spans with
  | nil => exact hrest
  | cons span spans ih =>
      rw [List.forall_mem_cons] at h
      rw [List.flatMap_cons, List.append_assoc]
      exact span_append h.1 (ih h.2)

end Questionnaire.Pattern
