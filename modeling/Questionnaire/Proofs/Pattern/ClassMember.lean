import Questionnaire.Proofs.Pattern.Anchored

/-! # Classes of characters, ranges, hyphens and shorthands

`ClassMember` is a member of a class as it is written. Writing out a shorthand turns it into spans
beside those of the other members, and a hyphen that comes after a member which ends in a single
character is then taken for the sign of a range. `patternMatches_classPattern` says what a class
matches in any case, and `exists_classSet_eq_ok` that the members are read one by one where no
hyphen is such a sign. -/

namespace Questionnaire.Pattern

/-! ### Classes -/

/-- Whether a character stands for itself wherever it is in a class. -/
def isLiteral (c : Char) : Bool :=
  !List.contains ['^', '[', ']', '\\', '&', '~', '-'] c

/-- The characters that a shorthand stands for. -/
inductive Shorthand where
  | digit
  | word
  | blank
  deriving DecidableEq, Repr

/-- A member of a class as it is written: a character, a range, a hyphen for itself, or a shorthand
that stands for some characters or for all others. -/
inductive ClassMember where
  | literal (c : Char) (h : isLiteral c = true)
  | range (first last : Char) (hfirst : isLiteral first = true) (hlast : isLiteral last = true)
      (h : first ≤ last)
  | hyphen
  | shorthand (kind : Shorthand) (negated : Bool)

/-- The letter of a shorthand. -/
def Shorthand.letter : Shorthand → Bool → Char
  | digit, false => 'd'
  | digit, true => 'D'
  | word, false => 'w'
  | word, true => 'W'
  | blank, false => 's'
  | blank, true => 'S'

namespace ClassMember

/-- The characters that a member is written with. -/
def text : ClassMember → List Char
  | literal c _ => [c]
  | range first last .. => [first, '-', last]
  | hyphen => ['-']
  | shorthand kind negated => ['\\', kind.letter negated]

/-- Whether a hyphen after the member is the sign of a range: the member ends in a character, or in
a set that has no place in a range. -/
def endsOpen : ClassMember → Bool
  | literal .. => true
  | shorthand .word negated => !negated
  | shorthand .blank _ => true
  | _ => false

end ClassMember

/-- The pattern of a class between the ends of the text. -/
def classPattern (members : List ClassMember) : String :=
  .ofList ('^' :: '[' :: (members.flatMap ClassMember.text ++ [']', '$']))

/-- Whether a hyphen stands where it is the sign of a range. -/
def hasSign : List ClassMember → Bool
  | member :: .hyphen :: next :: rest => member.endsOpen || hasSign (.hyphen :: next :: rest)
  | _ :: rest => hasSign rest
  | [] => false

/-- Whether two hyphens stand side by side. -/
def hasDoubleHyphen : List ClassMember → Bool
  | .hyphen :: .hyphen :: _ => true
  | _ :: rest => hasDoubleHyphen rest
  | [] => false

theorem isVerbatim_of_isLiteral {c : Char} (h : isLiteral c = true) : isVerbatim c = true := by
  simp_all [isLiteral, isVerbatim]

theorem ne_of_isLiteral {c d : Char} (h : isLiteral c = true) (hd : isLiteral d = false) :
    c ≠ d := fun heq => by
  rw [heq, hd] at h
  exact nomatch h

/-! ### Writing out the shorthands -/

namespace ClassMember

/-- The characters that a member is written with when shorthands are written out. -/
def expanded : ClassMember → List Char
  | shorthand kind negated =>
    (shorthandInClass (kind.letter negated)).getD ['\\', kind.letter negated]
  | member => member.text

theorem expandFrom_cons {c : Char} (hbackslash : c ≠ '\\') (hclose : c ≠ ']') (rest : List Char) :
    expandFrom true (c :: rest) = c :: expandFrom true rest := by
  have hinside : (c != ']') = true := bne_iff_ne.mpr hclose
  rw [expandFrom]
  · rw [if_pos rfl, hinside]
  all_goals simp [hbackslash]

theorem expandFrom_text (member : ClassMember) (rest : List Char) :
    expandFrom true (member.text ++ rest) = member.expanded ++ expandFrom true rest := by
  have hliteral {c : Char} (h : isLiteral c = true) (rest : List Char) :
      expandFrom true (c :: rest) = c :: expandFrom true rest :=
    expandFrom_cons (ne_of_isLiteral h (by decide)) (ne_of_isLiteral h (by decide)) rest
  cases member with
  | literal c h => exact hliteral h rest
  | range first last hfirst hlast h =>
      rw [text, List.cons_append, hliteral hfirst, List.cons_append,
        expandFrom_cons (by decide) (by decide), List.singleton_append, hliteral hlast]
      rfl
  | hyphen => exact expandFrom_cons (by decide) (by decide) rest
  | shorthand kind negated =>
      rw [text, List.cons_append, List.singleton_append, expandFrom]
      rfl

theorem expandFrom_flatMap_text (members : List ClassMember) (rest : List Char) :
    expandFrom true (members.flatMap text ++ rest) =
      members.flatMap expanded ++ expandFrom true rest := by
  induction members with
  | nil => rfl
  | cons member members ih =>
      rw [List.flatMap_cons, List.append_assoc, expandFrom_text, ih, ← List.append_assoc]
      rfl

end ClassMember

theorem expandShorthands_classPattern (members : List ClassMember) :
    expandShorthands (classPattern members).toList =
      '^' :: '[' :: (members.flatMap ClassMember.expanded ++ [']', '$']) := by
  have hrest : expandFrom true [']', '$'] = [']', '$'] := by decide
  rw [classPattern, String.toList_ofList, expandShorthands, ← hrest,
    ← ClassMember.expandFrom_flatMap_text]
  rfl

/-! ### Reading the members -/

/-- The span of a range of code points. -/
def codeSpan (range : Nat × Nat) : Span :=
  if range.1 = range.2 then .single (.escaped (.ofNat range.1))
  else .range true (.ofNat range.1) (.ofNat range.2)

theorem scans_codeRanges {ranges : List (Nat × Nat)}
    (h : ∀ range ∈ ranges, isWritable range.1 = true ∧ isWritable range.2 = true) :
    Scans (ranges.flatMap codeRange) ((ranges.map codeSpan).flatMap Span.members) := by
  rw [List.flatMap_map]
  refine .flatMap fun range hrange => ?_
  obtain ⟨hfirst, hlast⟩ := h range hrange
  have hhyphen : Scans ['-'] [.plain '-'] := .plain (by decide)
  unfold codeRange codeSpan
  split
  · exact .codeEscape hfirst
  · exact .append (.codeEscape hfirst) (.append hhyphen (.codeEscape hlast))

/-- The ranges of code points that a shorthand is written out with. -/
def codeRanges : Shorthand → List (Nat × Nat)
  | .digit => [(0, 0x2f), (0x3a, 0x10ffff)]
  | .word => [(0, 0x2f), (0x3a, 0x40), (0x5b, 0x5e), (0x60, 0x60), (0x7b, 0x10ffff)]
  | .blank =>
    [(0x9, 0xd), (0x20, 0x20), (0xa0, 0xa0), (0x1680, 0x1680), (0x2000, 0x200a), (0x2028, 0x2028),
      (0x2029, 0x2029), (0x202f, 0x202f), (0x205f, 0x205f), (0x3000, 0x3000), (0xfeff, 0xfeff)]

namespace ClassMember

/-- The spans that a member is read as. -/
def spans : ClassMember → List Span
  | literal c _ => [.single (.plain c)]
  | range first last .. => [.range false first last]
  | hyphen => [.single (.plain '-')]
  | shorthand .digit false => [.range false '0' '9']
  | shorthand .digit true => (codeRanges .digit).map codeSpan
  | shorthand .word false =>
    [.range false '0' '9', .range false 'A' 'Z', .range false 'a' 'z', .single (.plain '_')]
  | shorthand .word true => (codeRanges .word).map codeSpan
  | shorthand .blank false => (codeRanges .blank).map codeSpan
  | shorthand .blank true => [.single (.set (.complement .blanks))]

/-- What a member is scanned as. -/
def scanned (member : ClassMember) : List Member := member.spans.flatMap Span.members

theorem scans_expanded (member : ClassMember) : Scans member.expanded member.scanned := by
  rcases member with ⟨c, h⟩ | ⟨first, last, hfirst, hlast, h⟩ | _ | ⟨_ | _ | _, _ | _⟩
  case literal => exact .plain (isVerbatim_of_isLiteral h)
  case range =>
    have hhyphen : isVerbatim '-' = true := by decide
    refine .map_plain ?_
    simp only [expanded, text, List.all_cons, isVerbatim_of_isLiteral hfirst, hhyphen,
      isVerbatim_of_isLiteral hlast, List.all_nil, Bool.and_self]
  case hyphen => exact .map_plain (by decide)
  case shorthand.digit.false => exact .map_plain (by decide)
  case shorthand.digit.true => exact scans_codeRanges (by decide)
  case shorthand.word.false => exact .map_plain (by decide)
  case shorthand.word.true => exact scans_codeRanges (by decide)
  case shorthand.blank.false => exact scans_codeRanges (by decide)
  case shorthand.blank.true => exact .escape fun _ => rfl

theorem isOrdinary_of_isLiteral {c : Char} (h : isLiteral c = true) :
    (Member.plain c).isOrdinary = true := by
  simp_all [isLiteral, Member.isOrdinary]

theorem isSound_of_mem_spans {member : ClassMember} (hmember : member ≠ .hyphen) :
    ∀ span ∈ member.spans, span.isSound = true := by
  rcases member with ⟨c, h⟩ | ⟨first, last, hfirst, hlast, h⟩ | _ | ⟨_ | _ | _, _ | _⟩
  case literal => exact List.forall_mem_singleton.mpr (isOrdinary_of_isLiteral h)
  case range =>
    have hsound : (Span.range false first last).isSound = true := by
      simpa [Span.isSound, Member.ofChar, isOrdinary_of_isLiteral hfirst,
        isOrdinary_of_isLiteral hlast] using h
    exact List.forall_mem_singleton.mpr hsound
  case hyphen => exact absurd rfl hmember
  all_goals decide

/-- A member ends in an open span as it says. -/
theorem any_isOpen_getLast?_spans {member : ClassMember} (hmember : member ≠ .hyphen) :
    member.spans.getLast?.any Span.isOpen = member.endsOpen := by
  rcases member with ⟨c, h⟩ | ⟨first, last, hfirst, hlast, h⟩ | _ | ⟨_ | _ | _, _ | _⟩
  case hyphen => exact absurd rfl hmember
  all_goals rfl

theorem scanned_ne_nil (member : ClassMember) : member.scanned ≠ [] := by
  rcases member with ⟨c, h⟩ | ⟨first, last, hfirst, hlast, h⟩ | _ | ⟨_ | _ | _, _ | _⟩ <;>
    exact List.cons_ne_nil _ _

theorem exists_scanned_eq_cons {member : ClassMember} (hmember : member ≠ .hyphen) :
    ∃ first others, member.scanned = first :: others ∧ first.isOrdinary = true := by
  obtain ⟨span, spans, hspans⟩ : ∃ span spans, member.spans = span :: spans := by
    rcases member with ⟨c, h⟩ | ⟨first, last, hfirst, hlast, h⟩ | _ | ⟨_ | _ | _, _ | _⟩ <;>
      exact ⟨_, _, rfl⟩
  have hsound : span.isSound = true := isSound_of_mem_spans hmember span (by simp [hspans])
  obtain ⟨first, others, hmembers, hfirst⟩ := exists_members_eq_cons hsound
  refine ⟨first, others ++ spans.flatMap Span.members, ?_, hfirst⟩
  rw [scanned, hspans, List.flatMap_cons, hmembers, List.cons_append]

end ClassMember

theorem flatMap_scanned_ne_sign {members : List ClassMember}
    (h : ∀ rest, members ≠ .hyphen :: rest) (more : List Member) :
    members.flatMap ClassMember.scanned ≠ .plain '-' :: more := fun heq => by
  cases members with
  | nil => simp at heq
  | cons member members =>
      have hmember : member ≠ .hyphen := fun hhyphen => h members (by rw [hhyphen])
      obtain ⟨first, others, hscanned, hfirst⟩ := ClassMember.exists_scanned_eq_cons hmember
      rw [List.flatMap_cons, hscanned] at heq
      exact ne_sign_of_isOrdinary hfirst (List.cons.inj heq).1

theorem endsSpan_flatMap_scanned {members : List ClassMember}
    (h : ∀ next rest, members ≠ .hyphen :: next :: rest) :
    EndsSpan (members.flatMap ClassMember.scanned) := fun last more heq => by
  rcases members with _ | ⟨_ | _ | _ | _, _ | ⟨next, rest⟩⟩
  case cons.hyphen.nil => simp [ClassMember.scanned, ClassMember.spans, Span.members] at heq
  case cons.hyphen.cons => exact h next rest rfl
  all_goals exact absurd heq (flatMap_scanned_ne_sign (by simp) _)

theorem hasSign_cons {member : ClassMember} {members : List ClassMember}
    (h : hasSign (member :: members) = false) :
    hasSign members = false ∧
      (member.endsOpen = true → ∀ next rest, members ≠ .hyphen :: next :: rest) := by
  rcases members with _ | ⟨_ | _ | _ | _, _ | ⟨next, rest⟩⟩
  case cons.hyphen.cons =>
    rw [hasSign, Bool.or_eq_false_iff] at h
    exact ⟨h.2, fun hopen => absurd hopen (by simp [h.1])⟩
  all_goals exact ⟨h, fun _ next rest heq => nomatch heq⟩

/-- If no hyphen is the sign of a range, the members are read one by one. -/
theorem readSpans_flatMap_scanned {members : List ClassMember} (h : hasSign members = false)
    (current : CharSet) :
    readSpans current (members.flatMap ClassMember.scanned) =
      .ok (unionSpans current (members.flatMap ClassMember.spans)) := by
  induction members generalizing current with
  | nil => rfl
  | cons member members ih =>
      obtain ⟨hrest, hnext⟩ := hasSign_cons h
      have hunion : unionSpans current ((member :: members).flatMap ClassMember.spans) =
          unionSpans (unionSpans current member.spans) (members.flatMap ClassMember.spans) := by
        rw [List.flatMap_cons]
        exact List.foldl_append
      rw [hunion, ← ih hrest, List.flatMap_cons]
      by_cases hmember : member = .hyphen
      · subst hmember
        rfl
      · refine readSpans_spans (ClassMember.isSound_of_mem_spans hmember) (fun hopen => ?_) current
        rw [ClassMember.any_isOpen_getLast?_spans hmember] at hopen
        exact endsSpan_flatMap_scanned (hnext hopen)

theorem flat_flatMap_scanned {members : List ClassMember} (h : hasDoubleHyphen members = false) :
    Flat (members.flatMap ClassMember.scanned) := by
  induction members with
  | nil => exact .nil
  | cons member members ih =>
      by_cases hmember : member = .hyphen
      · subst hmember
        have hnext : ∀ rest, members ≠ .hyphen :: rest := fun rest heq => by
          rw [heq, hasDoubleHyphen] at h
          exact nomatch h
        rw [hasDoubleHyphen] at h
        · exact .sign (flatMap_scanned_ne_sign hnext) (ih h)
        · exact fun rest _ => hnext rest
      · rw [hasDoubleHyphen] at h
        · exact .spans_append (ClassMember.isSound_of_mem_spans hmember) (ih h)
        · exact fun _ heq _ => hmember heq

/-- The set of a class in which no hyphen is the sign of a range. -/
theorem exists_classSet_eq_ok {members : List ClassMember} (h : hasSign members = false) :
    ∃ set, classSet (members.flatMap ClassMember.scanned) = .ok set ∧ ∀ c,
      set.contains c = members.any fun member => member.spans.any (·.charSet.contains c) := by
  have hunion (current : CharSet) (members : List ClassMember) (c : Char) :
      (unionSpans current (members.flatMap ClassMember.spans)).contains c =
        (current.contains c ||
          members.any fun member => member.spans.any (·.charSet.contains c)) := by
    rw [contains_unionSpans, List.any_flatMap]
  by_cases hfront : ∃ rest, members = .hyphen :: rest
  · obtain ⟨rest, rfl⟩ := hfront
    refine ⟨_, readSpans_flatMap_scanned (hasSign_cons h).1 (.single '-'), fun c => ?_⟩
    rw [hunion, List.any_cons]
    exact congrArg (· || _) (Bool.or_false _).symm
  · have hclass : classFront (members.flatMap ClassMember.scanned) =
        (.empty, members.flatMap ClassMember.scanned) := by
      rw [classFront]
      exact flatMap_scanned_ne_sign fun rest heq => hfront ⟨rest, heq⟩
    refine ⟨_, ?_, fun c => (hunion .empty members c).trans (Bool.false_or _)⟩
    rw [classSet, hclass]
    exact readSpans_flatMap_scanned h .empty

theorem exists_expanded_eq_cons (member : ClassMember) :
    ∃ c rest, member.expanded = c :: rest ∧ c ≠ '^' ∧ c ≠ ']' := by
  have hliteral {c : Char} (h : isLiteral c = true) : c ≠ '^' ∧ c ≠ ']' :=
    ⟨ne_of_isLiteral h (by decide), ne_of_isLiteral h (by decide)⟩
  rcases member with ⟨c, h⟩ | ⟨first, last, hfirst, hlast, h⟩ | _ | ⟨_ | _ | _, _ | _⟩
  case literal => exact ⟨c, [], rfl, hliteral h⟩
  case range => exact ⟨first, ['-', last], rfl, hliteral hfirst⟩
  all_goals exact ⟨_, _, rfl, by decide⟩

/-- A pattern that is a class between the ends of the text matches a character as the set of its
members says, and cannot be used if they make none. -/
theorem patternMatches_classPattern {members : List ClassMember} (hne : members ≠ [])
    (h : hasDoubleHyphen members = false) (c : Char) :
    patternMatches (classPattern members) (.singleton c) =
      (classSet (members.flatMap ClassMember.scanned)).map fun set => set.contains c := by
  have hscans : Scans (members.flatMap ClassMember.expanded)
      (members.flatMap ClassMember.scanned) :=
    .flatMap fun member _ => member.scans_expanded
  have hfront : ∃ c rest, members.flatMap ClassMember.expanded = c :: rest ∧ c ≠ '^' ∧ c ≠ ']' := by
    obtain ⟨member, others, rfl⟩ := List.exists_cons_of_ne_nil hne
    obtain ⟨c, rest, hexpanded, hc⟩ := exists_expanded_eq_cons member
    exact ⟨c, rest ++ others.flatMap ClassMember.expanded, by
      rw [List.flatMap_cons, hexpanded, List.cons_append], hc⟩
  have hscanned : members.flatMap ClassMember.scanned ≠ [] := by
    obtain ⟨member, others, rfl⟩ := List.exists_cons_of_ne_nil hne
    exact List.append_ne_nil_of_left_ne_nil member.scanned_ne_nil _
  exact patternMatches_anchored (expandShorthands_classPattern members)
    (hscans.scanClass hfront ['$'])
    (ofMembers_eq_classSet (flat_flatMap_scanned h) hscanned) c

end Questionnaire.Pattern
