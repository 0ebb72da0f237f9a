import Questionnaire.Proofs.Export.Markup

/-! # The tags of a page

`Markup.readTags` reads the tags of a page from one end to the other: what stands between two tags
is passed over, and a tag ends at the first bracket that is not in the value of an attribute. From
pieces with plain names it reads the tags among them, one after another, whatever stands in the
texts and values (`Markup.readTags_render`). -/

namespace Questionnaire

/-- A tag of a page. -/
inductive Tag where
  | opening (name : String) (attributes : List Attribute)
  | closing (name : String)
  deriving DecidableEq, Repr

/-- Whether a tag or an attribute may have the name: letters, digits and hyphens. -/
def isTagName (name : String) : Bool :=
  !name.toList.isEmpty && name.toList.all fun c => c.isAlphanum || c == '-'

namespace Markup

/-! ### Reading -/

/-- Where in a page a reader is: between tags, in a tag or in the value of an attribute. -/
inductive PageState where
  | between
  | tag
  | value

/-- Reads the tag that an angle bracket has begun. -/
def readTag? : List Char → Option Tag
  | '/' :: rest => some (.closing (.ofList (rest.takeWhile (· != '>'))))
  | rest => (readOpening? ('<' :: rest)).map fun (name, attributes) => .opening name attributes

/-- Reads the tags of a page; none if it ends within a tag. -/
def readTags : PageState → List Char → Option (List Tag)
  | .between, [] => some []
  | _, [] => none
  | .between, c :: rest =>
    if c = '<' then (readTag? rest).bind fun tag => (readTags .tag rest).map (tag :: ·)
    else readTags .between rest
  | .tag, c :: rest =>
    if c = '>' then readTags .between rest
    else if c = '"' then readTags .value rest
    else readTags .tag rest
  | .value, c :: rest => if c = '"' then readTags .tag rest else readTags .value rest

/-- The tag that a piece is, unless it is a text or a line break. -/
def tag? : Markup → Option Tag
  | opening tag attributes => some (.opening tag attributes)
  | closing tag => some (.closing tag)
  | _ => none

/-- The tags among some pieces. -/
def tags (pieces : List Markup) : List Tag := pieces.filterMap tag?

/-- Whether the names in a piece are such that it is read as it is written. -/
def isPlain : Markup → Bool
  | opening tag attributes => isTagName tag && attributes.all (isTagName ·.name)
  | closing tag => isTagName tag
  | _ => true

@[simp] theorem tags_append (first second : List Markup) :
    tags (first ++ second) = tags first ++ tags second := List.filterMap_append

/-! ### Names -/

theorem isTagName_iff {name : String} : isTagName name = true ↔
    name.toList ≠ [] ∧ ∀ c ∈ name.toList, c.isAlphanum = true ∨ c = '-' := by
  simp [isTagName]

/-- None of the characters with a meaning in a tag stands in a name. -/
theorem ne_of_mem_name {name : String} (h : isTagName name = true) {c : Char}
    (hc : c ∈ name.toList) : c ∉ ['<', '>', '"', '/', ' ', '='] := by
  intro hmem
  have hmarks : (['<', '>', '"', '/', ' ', '='].all fun d => !d.isAlphanum && d != '-') = true :=
    rfl
  have hmark := List.all_eq_true.1 hmarks c hmem
  simp only [Bool.and_eq_true, Bool.not_eq_true', bne_iff_ne] at hmark
  obtain ⟨halnum, hhyphen⟩ := hmark
  rcases (isTagName_iff.1 h).2 c hc with hname | hname
  · rw [halnum] at hname
    cases hname
  · exact hhyphen hname

theorem isPlainName_of_isTagName {name : String} (h : isTagName name = true) :
    isPlainName name = true := by
  refine isPlainName_iff.2 ⟨(isTagName_iff.1 h).1, fun c hc => ?_⟩
  have hne := ne_of_mem_name h hc
  simp only [List.mem_cons, not_or] at hne
  obtain ⟨-, hgt, -, -, hblank, heq, -⟩ := hne
  simp [isNameChar, hgt, hblank, heq]

/-! ### Passing over what is no tag -/

theorem readTags_between_append {chars : List Char} (h : '<' ∉ chars) (rest : List Char) :
    readTags .between (chars ++ rest) = readTags .between rest := by
  induction chars with
  | nil => rfl
  | cons c chars ih =>
      obtain ⟨hc, hchars⟩ := not_or.1 (List.mem_cons.not.1 h)
      rw [List.cons_append, readTags, if_neg (Ne.symm hc), ih hchars]

theorem readTags_tag_append {chars : List Char} (h : ∀ c ∈ chars, c ≠ '>' ∧ c ≠ '"')
    (rest : List Char) : readTags .tag (chars ++ rest) = readTags .tag rest := by
  induction chars with
  | nil => rfl
  | cons c chars ih =>
      obtain ⟨⟨hgt, hquote⟩, hchars⟩ := List.forall_mem_cons.1 h
      rw [List.cons_append, readTags, if_neg hgt, if_neg hquote, ih hchars]

theorem readTags_value_append {chars : List Char} (h : '"' ∉ chars) (rest : List Char) :
    readTags .value (chars ++ rest) = readTags .value rest := by
  induction chars with
  | nil => rfl
  | cons c chars ih =>
      obtain ⟨hc, hchars⟩ := not_or.1 (List.mem_cons.not.1 h)
      rw [List.cons_append, readTags, if_neg (Ne.symm hc), ih hchars]

theorem readTags_name_append {name : String} (h : isTagName name = true) (rest : List Char) :
    readTags .tag (name.toList ++ rest) = readTags .tag rest := by
  refine readTags_tag_append (fun c hc => ?_) rest
  have hne := ne_of_mem_name h hc
  simp only [List.mem_cons, not_or] at hne
  exact ⟨hne.2.1, hne.2.2.1⟩

/-- An attribute is passed over, whatever its value is. -/
theorem readTags_attribute_append {item : Attribute} (h : isTagName item.name = true)
    (rest : List Char) : readTags .tag (item.chars ++ rest) = readTags .tag rest := by
  obtain ⟨name, value⟩ := item
  rw [Attribute.chars, List.cons_append, readTags, if_neg (by decide), if_neg (by decide),
    List.append_assoc, readTags_name_append h]
  cases value with
  | none => rfl
  | some value =>
      have hquote : '"' ∉ escapeHtmlChars value := fun hmem =>
        absurd (isDelimiter_of_mem_escapeHtmlChars hmem) (by decide)
      simp only [List.cons_append, List.append_assoc, List.nil_append]
      rw [readTags, if_neg (by decide), if_neg (by decide), readTags, if_neg (by decide),
        if_pos rfl, readTags_value_append hquote, readTags, if_pos rfl]

theorem readTags_attributes_append {attributes : List Attribute}
    (h : ∀ item ∈ attributes, isTagName item.name = true) (rest : List Char) :
    readTags .tag (attributes.flatMap Attribute.chars ++ rest) = readTags .tag rest := by
  induction attributes with
  | nil => rfl
  | cons item attributes ih =>
      obtain ⟨hitem, hattributes⟩ := List.forall_mem_cons.1 h
      rw [List.flatMap_cons, List.append_assoc, readTags_attribute_append hitem, ih hattributes]

/-! ### Reading pieces -/

theorem readTag?_closing {name : String} (h : isTagName name = true) (rest : List Char) :
    readTag? ('/' :: (name.toList ++ '>' :: rest)) = some (.closing name) := by
  have hname : ∀ c ∈ name.toList, (c != '>') = true := by
    intro c hc
    have hne := ne_of_mem_name h hc
    simp only [List.mem_cons, not_or] at hne
    exact bne_iff_ne.2 hne.2.1
  have hstop : ('>' :: rest).takeWhile (· != '>') = [] := by
    rw [List.takeWhile_cons_of_neg]
    decide
  rw [readTag?, List.takeWhile_append_of_pos hname, hstop, List.append_nil, String.ofList_toList]

theorem readTag?_opening {name : String} {attributes : List Attribute}
    (hname : isTagName name = true) (h : ∀ item ∈ attributes, isTagName item.name = true)
    (rest : List Char) :
    readTag? (name.toList ++ (attributes.flatMap Attribute.chars ++ '>' :: rest)) =
      some (.opening name attributes) := by
  have hread := readOpening?_chars_append (isPlainName_of_isTagName hname)
    (fun item hitem => isPlainName_of_isTagName (h item hitem)) rest
  simp only [chars, List.cons_append, List.append_assoc, List.nil_append] at hread
  -- the name does not begin with a slash
  obtain ⟨c, tail, htail⟩ := List.exists_cons_of_ne_nil (isTagName_iff.1 hname).1
  have hslash : c ≠ '/' := by
    have hne := ne_of_mem_name hname (htail ▸ List.mem_cons_self)
    simp only [List.mem_cons, not_or] at hne
    exact hne.2.2.2.1
  rw [htail, List.cons_append] at hread ⊢
  rw [readTag?, hread]
  · rfl
  · rintro _ heq
    exact hslash (List.cons.inj heq).1

/-- A piece is read as the tag that it is, and a text or a line break as none. -/
theorem readTags_chars_append {piece : Markup} (h : piece.isPlain = true) (rest : List Char) :
    readTags .between (piece.chars ++ rest) =
      (readTags .between rest).map (piece.tag?.toList ++ ·) := by
  cases piece with
  | opening name attributes =>
      rw [isPlain, Bool.and_eq_true, List.all_eq_true] at h
      obtain ⟨hname, hattributes⟩ := h
      simp only [chars, List.cons_append, List.append_assoc, List.nil_append]
      rw [readTags, if_pos rfl, readTag?_opening hname hattributes, Option.bind_some,
        readTags_name_append hname, readTags_attributes_append hattributes, readTags, if_pos rfl]
      rfl
  | closing name =>
      simp only [chars, List.cons_append, List.append_assoc, List.nil_append]
      rw [readTags, if_pos rfl, readTag?_closing h, Option.bind_some, readTags,
        if_neg (by decide), if_neg (by decide), readTags_name_append h, readTags, if_pos rfl]
      rfl
  | text value =>
      have hbracket : '<' ∉ escapeHtmlChars value := fun hmem =>
        absurd (isDelimiter_of_mem_escapeHtmlChars hmem) (by decide)
      rw [chars, readTags_between_append hbracket]
      exact Option.map_id'.symm
  | lineBreak => exact Option.map_id'.symm

/-- **The tags of a page are read as they have been written**, whatever stands in the texts and in
the values of attributes. -/
theorem readTags_render {pieces : List Markup} (h : ∀ piece ∈ pieces, piece.isPlain = true) :
    readTags .between (render pieces) = some (tags pieces) := by
  induction pieces with
  | nil => rfl
  | cons piece pieces ih =>
      obtain ⟨hpiece, hpieces⟩ := List.forall_mem_cons.1 h
      have htags : tags (piece :: pieces) = piece.tag?.toList ++ tags pieces := by
        rw [tags, List.filterMap_cons]
        cases piece.tag? <;> rfl
      rw [render, List.flatMap_cons, readTags_chars_append hpiece, htags]
      exact congrArg _ (ih hpieces)

end Markup

end Questionnaire
