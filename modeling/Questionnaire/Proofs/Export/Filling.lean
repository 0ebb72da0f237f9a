import Questionnaire.Export.Body
import Questionnaire.Proofs.Json.Numbers
import Questionnaire.Proofs.Text.Replace

/-! # Filling in a template

A template has a placeholder where an instance has its index. Putting the index in the place of
every placeholder acts on each piece of the template apart: no occurrence lies across two pieces,
whatever the underscores around it, and no escape hides one or brings one about. `Becomes` says of
characters what they turn into whatever follows them, and so do `KeyBecomes`, `AttributesBecome` and
`Markup.PiecesBecome` of keys, attributes and pieces of markup. -/

namespace Questionnaire

namespace InstanceSlot

/-- The characters that stand for the index in a template. -/
abbrev placeholderChars : List Char := placeholderText.toList

/-- Characters of a template with an index in the places of the placeholder. -/
def fillIn (i : Nat) (chars : List Char) : List Char :=
  Text.replaceAll placeholderChars (Decimal.print i) chars

/-- The placeholder does not occur in a text. -/
def Free (text : String) : Prop := ¬ placeholderChars <:+: text.toList

/-- Filling in turns some characters into others, whatever follows them. -/
def Becomes (i : Nat) (chars chars' : List Char) : Prop :=
  ∀ rest, fillIn i (chars ++ rest) = chars' ++ fillIn i rest

/-- None of the characters is one of the placeholder's. -/
def isInert (chars : List Char) : Bool := chars.all (!placeholderChars.contains ·)

variable {i : Nat}

/-! ### Characters -/

theorem placeholderChars_ne_nil : placeholderChars ≠ [] := by decide

theorem notMem_of_isInert {chars : List Char} (h : isInert chars = true) :
    ∀ c ∈ chars, c ∉ placeholderChars := fun c hc hmem => by
  have hall := List.all_eq_true.mp h c hc
  rw [List.contains_iff_mem.mpr hmem] at hall
  exact absurd hall (by decide)

theorem notMem_placeholderChars_of_isDigit {c : Char} (h : Decimal.isDigit c = true) :
    c ∉ placeholderChars := fun hmem => by
  have hdigits : placeholderChars.all (!Decimal.isDigit ·) = true := by decide
  have hplain := List.all_eq_true.mp hdigits c hmem
  rw [h] at hplain
  exact absurd hplain (by decide)

/-- An escape leaves the placeholder alone if a look at its characters says so. -/
theorem forall_mem_of_all {f : Char → List Char}
    (h : placeholderChars.all (fun c => f c == [c]) = true) : ∀ c ∈ placeholderChars, f c = [c] :=
  fun c hc => beq_iff_eq.mp (List.all_eq_true.mp h c hc)

theorem fillIn_eq_self {text : String} (h : Free text) :
    fillIn i text.toList = text.toList := Text.replaceAll_eq_self h

theorem fillIn_of_notMem {chars : List Char} (h : 'I' ∉ chars) : fillIn i chars = chars :=
  Text.replaceAll_eq_self fun hoccurs => h (hoccurs.subset (by decide))

theorem free_of_notMem {text : String} (h : 'I' ∉ text.toList) : Free text := fun hoccurs =>
  h (hoccurs.subset (by decide))

namespace Becomes

theorem nil : Becomes i [] [] := fun _ => rfl

theorem append {first first' second second' : List Char} (h : Becomes i first first')
    (h' : Becomes i second second') : Becomes i (first ++ second) (first' ++ second') :=
  fun rest => by rw [List.append_assoc, h, h', List.append_assoc]

theorem flatMap {α : Type} {f g : α → List Char} {items : List α}
    (h : ∀ a ∈ items, Becomes i (f a) (g a)) : Becomes i (items.flatMap f) (items.flatMap g) := by
  induction items with
  | nil => exact nil
  | cons a items ih =>
      rw [List.forall_mem_cons] at h
      exact h.1.append (ih h.2)

theorem of_forall {chars : List Char} (h : ∀ c ∈ chars, c ∉ placeholderChars) :
    Becomes i chars chars := Text.replaceAll_append_of_forall placeholderChars_ne_nil h

theorem cons {c : Char} {chars chars' : List Char} (hc : c ∉ placeholderChars)
    (h : Becomes i chars chars') : Becomes i (c :: chars) (c :: chars') :=
  append (of_forall (List.forall_mem_singleton.mpr hc)) h

/-- What is filled in correctly is so before every character that the placeholder lacks. -/
theorem concat {chars chars' : List Char} {d : Char} (hd : d ∉ placeholderChars)
    (h : fillIn i chars = chars') : Becomes i (chars ++ [d]) (chars' ++ [d]) := fun rest => by
  rw [List.append_assoc, List.append_assoc, List.singleton_append, List.singleton_append, ← h]
  exact Text.replaceAll_append_cons placeholderChars_ne_nil hd chars rest

theorem fillIn_eq {chars chars' : List Char} (h : Becomes i chars chars') :
    fillIn i chars = chars' := by
  have hrest := h []
  rwa [List.append_nil, show fillIn i [] = [] from Text.replaceAll_nil, List.append_nil] at hrest

theorem inert {chars : List Char} (h : isInert chars = true) : Becomes i chars chars :=
  of_forall (notMem_of_isInert h)

theorem print (n : Nat) : Becomes i (Decimal.print n) (Decimal.print n) :=
  of_forall fun _ hc => notMem_placeholderChars_of_isDigit (Decimal.isDigit_of_mem_print hc)

end Becomes

theorem becomes_placeholder (i : Nat) : Becomes i placeholderChars (Decimal.print i) :=
  Text.replaceAll_old_append placeholderChars_ne_nil

theorem upperI_notMem_print (n : Nat) : 'I' ∉ Decimal.print n := fun h =>
  absurd (Decimal.isDigit_of_mem_print h) (by decide)

end InstanceSlot

open InstanceSlot

variable {i : Nat}

/-! ### Keys

An extension of a key begins with underscores of its own and ends with a digit, so it is not part
of an occurrence. -/

/-- Filling in turns a key into another one, whatever it is extended by. -/
def KeyBecomes (i : Nat) (key key' : String) : Prop := Becomes i key.toList key'.toList

theorem keyBecomes_slotKey (coords : QuestionCoords) (i : Nat) :
    KeyBecomes i (slotKey coords .placeholder) (slotKey coords (.index i)) := by
  have hfront : 'I' ∉ coords.groupKey.chars ++ '_' :: coordinateText 'q' coords.questionIndex
      ++ ['_'] := by
    simp [GroupKey.chars, coordinateText, upperI_notMem_print]
  have hkey := (Becomes.concat (d := 'i') (by decide) (fillIn_of_notMem hfront)).append
    (becomes_placeholder i)
  simpa [KeyBecomes, slotKey, label, natText] using hkey

theorem KeyBecomes.extend {key key' : String} (h : KeyBecomes i key key') {mark : String}
    (hmark : 'I' ∉ mark.toList) (n : Nat) :
    KeyBecomes i (key ++ mark ++ .ofList (Decimal.print n))
      (key' ++ mark ++ .ofList (Decimal.print n)) := by
  -- the last digit ends the extension
  obtain ⟨digits, d, hprint⟩ :=
    (List.eq_nil_or_concat (Decimal.print n)).resolve_left (Decimal.print_ne_nil n)
  have hd : Decimal.isDigit d = true := Decimal.isDigit_of_mem_print (n := n) (by simp [hprint])
  have hdigits : 'I' ∉ digits := fun hmem => upperI_notMem_print n (by simp [hprint, hmem])
  have hextension : Becomes i (mark.toList ++ digits ++ [d]) (mark.toList ++ digits ++ [d]) :=
    .concat (notMem_placeholderChars_of_isDigit hd) (fillIn_of_notMem (by simp [hmark, hdigits]))
  simpa [KeyBecomes, hprint] using Becomes.append h hextension

/-! ### JSON -/

namespace Json

/-- Filling in changes nothing of the value's text. -/
def Settled (i : Nat) (value : Json) : Prop :=
  Becomes i (compactChars value) (compactChars value)

theorem escapeChar_notMem : ∀ c ∉ placeholderChars,
    escapeChar c ≠ [] ∧ ∀ e ∈ escapeChar c, e ∉ placeholderChars := by
  have hhex : ∀ k < 16, Nat.digitChar k ∉ placeholderChars := by decide
  intro c hc
  unfold escapeChar
  split
  iterate 7 exact ⟨List.cons_ne_nil _ _, notMem_of_isInert (by decide)⟩
  split
  · have hfirst := hhex (c.toNat / 16 % 16) (Nat.mod_lt _ (by decide))
    have hsecond := hhex (c.toNat % 16) (Nat.mod_lt _ (by decide))
    refine ⟨List.cons_ne_nil _ _, ?_⟩
    simp only [List.forall_mem_cons, hexDigit]
    exact ⟨by decide, by decide, by decide, by decide, hfirst, hsecond, by simp⟩
  · exact ⟨List.cons_ne_nil _ _, List.forall_mem_singleton.mpr hc⟩

theorem escapeChar_of_isDigit {c : Char} (h : Decimal.isDigit c = true) : escapeChar c = [c] := by
  have hdigit := Decimal.isDigit_iff.mp h
  have hplain : ¬ c < ' ' := fun hlt => absurd (show c.toNat < 32 from hlt) (by omega)
  unfold escapeChar
  split
  all_goals first | exact if_neg hplain | exact absurd hdigit (by decide)

theorem becomes_quote {text : String} (h : Free text) : Becomes i (quote text) (quote text) := by
  have hescaped : fillIn i (text.toList.flatMap escapeChar) = text.toList.flatMap escapeChar := by
    rw [fillIn, Text.replaceAll_flatMap (forall_mem_of_all (by decide)) escapeChar_notMem
      placeholderChars_ne_nil fun c hc => escapeChar_of_isDigit (Decimal.isDigit_of_mem_print hc)]
    exact congrArg (List.flatMap escapeChar) (fillIn_eq_self h)
  exact .cons (by decide) (.concat (by decide) hescaped)

namespace Settled

theorem string {text : String} (h : Free text) : Settled i (.string text) := becomes_quote h

theorem number (value : JsonNumber) : Settled i (.number value) := by
  cases value with
  | natural n => exact .print n
  | negative n => exact .cons (by decide) (.print n)
  | double x =>
      obtain ⟨layout, hvalid, htext⟩ := Binary64.exists_layout x
      have hdigits {digits : List Char} (h : ∀ c ∈ digits, Decimal.isDigit c = true) :
          Becomes i digits digits :=
        .of_forall fun c hc => notMem_placeholderChars_of_isDigit (h c hc)
      have hsign : Becomes i x.signText x.signText := by
        unfold Binary64.signText
        split <;> exact .inert (by decide)
      have hfraction : Becomes i layout.fractionText layout.fractionText := by
        unfold NumberLayout.fractionText
        split
        · exact .nil
        · exact .cons (by decide) (hdigits hvalid.fraction)
      have hexponent : Becomes i layout.exponentText layout.exponentText := by
        unfold NumberLayout.exponentText
        split
        · exact .nil
        · rename_i negative digits heq
          have hmark : Becomes i ['e', if negative then '-' else '+']
              ['e', if negative then '-' else '+'] := by
            cases negative <;> exact .inert (by decide)
          exact hmark.append (hdigits (hvalid.exponent negative digits heq).2)
      have hlayout : Becomes i layout.text layout.text :=
        (hdigits hvalid.integer.2).append (hfraction.append hexponent)
      rw [Settled, compactChars, numberText, htext]
      exact hsign.append hlayout

theorem array {items : List Json} (h : ∀ item ∈ items, Settled i item) :
    Settled i (.array items) := by
  have hrest : ∀ items : List Json, (∀ item ∈ items, Settled i item) →
      Becomes i (compactItems items) (compactItems items) := fun items h => by
    induction items with
    | nil => exact .inert (by decide)
    | cons item items ih =>
        rw [List.forall_mem_cons] at h
        exact .cons (by decide) (h.1.append (ih h.2))
  cases items with
  | nil => exact .inert (by decide)
  | cons item items =>
      rw [List.forall_mem_cons] at h
      exact .cons (by decide) (h.1.append (hrest items h.2))

theorem strings {values : List String} (h : ∀ value ∈ values, Free value) :
    Settled i (.strings values) := by
  refine array fun item hitem => ?_
  obtain ⟨value, hvalue, rfl⟩ := List.mem_map.mp hitem
  exact string (h value hvalue)

theorem object {entries : List (String × Json)}
    (h : ∀ entry ∈ entries, Free entry.1 ∧ Settled i entry.2) : Settled i (.object entries) := by
  have hrest : ∀ entries : List (String × Json),
      (∀ entry ∈ entries, Free entry.1 ∧ Settled i entry.2) →
      Becomes i (compactEntries entries) (compactEntries entries) := fun entries h => by
    induction entries with
    | nil => exact .inert (by decide)
    | cons entry entries ih =>
        rw [List.forall_mem_cons] at h
        exact .cons (by decide) (.append (becomes_quote h.1.1)
          (.cons (by decide) (h.1.2.append (ih h.2))))
  cases entries with
  | nil => exact .inert (by decide)
  | cons entry entries =>
      rw [List.forall_mem_cons] at h
      exact .cons (by decide) (.append (becomes_quote h.1.1)
        (.cons (by decide) (h.1.2.append (hrest entries h.2))))

theorem record {fields : List (String × Option Json)}
    (h : ∀ field ∈ fields, Free field.1 ∧ ∀ value ∈ field.2, Settled i value) :
    Settled i (.record fields) := by
  refine object fun entry hentry => ?_
  obtain ⟨⟨name, value⟩, hfield, heq⟩ := List.mem_filterMap.mp hentry
  obtain ⟨json, hjson, rfl⟩ := Option.map_eq_some_iff.mp heq
  exact ⟨(h _ hfield).1, (h _ hfield).2 json hjson⟩

end Settled

end Json

/-! ### Markup -/

theorem escapeHtmlChar_notMem : ∀ c ∉ placeholderChars,
    escapeHtmlChar c ≠ [] ∧ ∀ e ∈ escapeHtmlChar c, e ∉ placeholderChars := by
  intro c hc
  unfold escapeHtmlChar
  split
  iterate 5 exact ⟨List.cons_ne_nil _ _, notMem_of_isInert (by decide)⟩
  exact ⟨List.cons_ne_nil _ _, List.forall_mem_singleton.mpr hc⟩

theorem escapeHtmlChar_of_isDigit {c : Char} (h : Decimal.isDigit c = true) :
    escapeHtmlChar c = [c] := by
  have hdigit := Decimal.isDigit_iff.mp h
  unfold escapeHtmlChar
  split
  all_goals first | rfl | exact absurd hdigit (by decide)

theorem escapeHtmlChars_natText (n : Nat) : escapeHtmlChars (natText n) = Decimal.print n := by
  rw [escapeHtmlChars, natText, String.toList_ofList]
  exact Text.flatMap_eq_self fun c hc => escapeHtmlChar_of_isDigit (Decimal.isDigit_of_mem_print hc)

theorem fillIn_escapeHtmlChars {value value' : String}
    (h : fillIn i value.toList = value'.toList) :
    fillIn i (escapeHtmlChars value) = escapeHtmlChars value' := by
  rw [fillIn, escapeHtmlChars, Text.replaceAll_flatMap (forall_mem_of_all (by decide))
    escapeHtmlChar_notMem placeholderChars_ne_nil fun c hc =>
      escapeHtmlChar_of_isDigit (Decimal.isDigit_of_mem_print hc)]
  exact congrArg (List.flatMap escapeHtmlChar) h

/-- Filling in turns the attributes of a tag into others. -/
def AttributesBecome (i : Nat) (attributes attributes' : List Attribute) : Prop :=
  Becomes i (attributes.flatMap Attribute.chars) (attributes'.flatMap Attribute.chars)

namespace AttributesBecome

theorem nil : AttributesBecome i [] [] := Becomes.nil

variable {rest rest' : List Attribute}

theorem append {first first' : List Attribute} (h : AttributesBecome i first first')
    (hrest : AttributesBecome i rest rest') :
    AttributesBecome i (first ++ rest) (first' ++ rest') := by
  simpa [AttributesBecome] using Becomes.append h hrest

theorem attr {name value value' : String} (hname : isInert name.toList = true)
    (hvalue : fillIn i value.toList = value'.toList) (h : AttributesBecome i rest rest') :
    AttributesBecome i (attr name value :: rest) (Questionnaire.attr name value' :: rest') := by
  have hvalue' : Becomes i (escapeHtmlChars value ++ ['"']) (escapeHtmlChars value' ++ ['"']) :=
    .concat (by decide) (fillIn_escapeHtmlChars hvalue)
  have hitem : Becomes i (Questionnaire.attr name value).chars
      (Questionnaire.attr name value').chars :=
    .cons (by decide) (.append (.inert hname) (.cons (by decide) (.cons (by decide) hvalue')))
  exact hitem.append h

theorem fixed {name value : String} (hname : isInert name.toList = true)
    (hvalue : 'I' ∉ value.toList) (h : AttributesBecome i rest rest') :
    AttributesBecome i (Questionnaire.attr name value :: rest)
      (Questionnaire.attr name value :: rest') :=
  attr hname (fillIn_of_notMem hvalue) h

theorem free {name value : String} (hname : isInert name.toList = true) (hvalue : Free value)
    (h : AttributesBecome i rest rest') :
    AttributesBecome i (Questionnaire.attr name value :: rest)
      (Questionnaire.attr name value :: rest') :=
  attr hname (fillIn_eq_self hvalue) h

theorem key {name key key' : String} (hname : isInert name.toList = true)
    (hkey : KeyBecomes i key key') (h : AttributesBecome i rest rest') :
    AttributesBecome i (Questionnaire.attr name key :: rest)
      (Questionnaire.attr name key' :: rest') :=
  attr hname hkey.fillIn_eq h

theorem flag {name : String} (hname : isInert name.toList = true)
    (h : AttributesBecome i rest rest') :
    AttributesBecome i (flag name :: rest) (Questionnaire.flag name :: rest') := by
  have hitem : Becomes i (Questionnaire.flag name).chars (Questionnaire.flag name).chars :=
    .cons (by decide) (.append (.inert hname) .nil)
  exact hitem.append h

theorem json {name : String} {value : Json} (hname : isInert name.toList = true)
    (hvalue : value.Settled i) (h : AttributesBecome i rest rest') :
    AttributesBecome i (Questionnaire.attr name value.compact :: rest)
      (Questionnaire.attr name value.compact :: rest') :=
  attr hname (by rw [Json.compact, String.toList_ofList]; exact hvalue.fillIn_eq) h

end AttributesBecome

namespace Markup

/-- Filling in turns some pieces into others, whatever follows them. -/
def PiecesBecome (i : Nat) (pieces pieces' : List Markup) : Prop :=
  Becomes i (render pieces) (render pieces')

theorem render_append (pieces more : List Markup) :
    render (pieces ++ more) = render pieces ++ render more := List.flatMap_append

theorem fillIn_render_text {value value' : String} (h : fillIn i value.toList = value'.toList) :
    fillIn i (render [text value]) = render [text value'] := by
  simpa [render, chars] using fillIn_escapeHtmlChars h

namespace PiecesBecome

variable {tag : String} {attributes attributes' : List Attribute}
  {pieces pieces' content content' : List Markup}

theorem nil : PiecesBecome i [] [] := Becomes.nil

theorem append {first first' second second' : List Markup} (h : PiecesBecome i first first')
    (h' : PiecesBecome i second second') :
    PiecesBecome i (first ++ second) (first' ++ second') := by
  simpa [PiecesBecome, render] using Becomes.append h h'

theorem flatMap {α : Type} {f g : α → List Markup} {items : List α}
    (h : ∀ a ∈ items, PiecesBecome i (f a) (g a)) :
    PiecesBecome i (items.flatMap f) (items.flatMap g) := by
  rw [PiecesBecome, render, render, List.flatMap_assoc, List.flatMap_assoc]
  exact .flatMap h

theorem flatMap_zipIdx {α : Type} {f g : α × Nat → List Markup} {items : List α}
    (h : ∀ a ∈ items, ∀ n, PiecesBecome i (f (a, n)) (g (a, n))) :
    PiecesBecome i (items.zipIdx.flatMap f) (items.zipIdx.flatMap g) :=
  flatMap fun entry hentry => h entry.1 (List.fst_mem_of_mem_zipIdx hentry) entry.2

theorem singleton {piece piece' : Markup} (h : Becomes i piece.chars piece'.chars) :
    PiecesBecome i [piece] [piece'] := Becomes.append h .nil

theorem opening (htag : isInert tag.toList = true) (h : AttributesBecome i attributes attributes') :
    PiecesBecome i [.opening tag attributes] [.opening tag attributes'] :=
  singleton (.cons (by decide) (.append (.inert htag) (.append h (.inert (by decide)))))

theorem closing (htag : isInert tag.toList = true) : PiecesBecome i [.closing tag] [.closing tag] :=
  singleton (.cons (by decide) (.cons (by decide) (.append (.inert htag)
    (.inert (by decide)))))

theorem line (h : PiecesBecome i pieces pieces') :
    PiecesBecome i (line pieces) (Markup.line pieces') :=
  h.append (.inert (by decide))

theorem block (htag : isInert tag.toList = true) (h : AttributesBecome i attributes attributes')
    (hcontent : PiecesBecome i content content') :
    PiecesBecome i (block tag attributes content) (Markup.block tag attributes' content') :=
  ((line (opening htag h)).append hcontent).append (line (closing htag))

/-- The content of an element ends where the closing tag begins, so a text may stand last in it. -/
theorem element (htag : isInert tag.toList = true) (h : AttributesBecome i attributes attributes')
    (hcontent : fillIn i (render content) = render content') :
    PiecesBecome i (element tag attributes content) (Markup.element tag attributes' content') := by
  have hclosing : Becomes i ('/' :: (tag.toList ++ ['>'])) ('/' :: (tag.toList ++ ['>'])) :=
    .cons (by decide) (.append (.inert htag) (.inert (by decide)))
  have hend : Becomes i (render content ++ ['<']) (render content' ++ ['<']) :=
    .concat (by decide) hcontent
  simpa [PiecesBecome, Markup.element, render, chars] using
    Becomes.append (opening htag h) (hend.append hclosing)

theorem elementLine (htag : isInert tag.toList = true)
    (h : AttributesBecome i attributes attributes')
    (hcontent : fillIn i (render content) = render content') :
    PiecesBecome i (elementLine tag attributes content)
      (Markup.elementLine tag attributes' content') :=
  line (element htag h hcontent)

end PiecesBecome

/-- A text that an element follows. -/
theorem fillIn_text_cons {tag value value' : String} {attributes attributes' : List Attribute}
    {content content' : List Markup} (hvalue : fillIn i value.toList = value'.toList)
    (h : PiecesBecome i (element tag attributes content) (element tag attributes' content')) :
    fillIn i (render (text value :: element tag attributes content)) =
      render (text value' :: element tag attributes' content') := by
  obtain ⟨more, hmore⟩ : ∃ more, render (element tag attributes content) = '<' :: more := ⟨_, rfl⟩
  have helement : '<' :: fillIn i more = render (element tag attributes' content') := by
    rw [← h.fillIn_eq, hmore]
    exact (Becomes.cons (by decide) Becomes.nil more).symm
  calc fillIn i (render (text value :: element tag attributes content))
      = fillIn i (escapeHtmlChars value ++ '<' :: more) := by rw [← hmore]; rfl
    _ = fillIn i (escapeHtmlChars value) ++ '<' :: fillIn i more :=
        Text.replaceAll_append_cons placeholderChars_ne_nil (by decide) _ _
    _ = escapeHtmlChars value' ++ render (element tag attributes' content') := by
        rw [fillIn_escapeHtmlChars hvalue, helement]

end Markup

end Questionnaire
