import Mathlib.Data.List.Basic
import Questionnaire.Export.Markup

/-! # Reading markup back

An escaped text has none of the characters that delimit tags and values
(`isDelimiter_of_mem_escapeHtmlChars`), and `unescapeHtmlChars` undoes the escaping
(`unescapeHtmlChars_escapeHtmlChars`). `Markup.readOpening?` reads a tag and its attributes, and
`Markup.readOpening?_chars_append` says that it gives back every opening tag that has been written,
whatever the values of its attributes are. -/

namespace Questionnaire

/-! ### Escaped texts -/

/-- The characters that delimit tags and the values of attributes. -/
def isDelimiter (c : Char) : Bool := c == '<' || c == '>' || c == '"' || c == '\''

/-- The characters that an escaped text stands for. -/
def unescapeHtmlChars : List Char → List Char
  | [] => []
  | '&' :: 'a' :: 'm' :: 'p' :: ';' :: rest => '&' :: unescapeHtmlChars rest
  | '&' :: 'l' :: 't' :: ';' :: rest => '<' :: unescapeHtmlChars rest
  | '&' :: 'g' :: 't' :: ';' :: rest => '>' :: unescapeHtmlChars rest
  | '&' :: 'q' :: 'u' :: 'o' :: 't' :: ';' :: rest => '"' :: unescapeHtmlChars rest
  | '&' :: '#' :: '3' :: '9' :: ';' :: rest => '\'' :: unescapeHtmlChars rest
  | c :: rest => c :: unescapeHtmlChars rest

theorem unescapeHtmlChars_cons {c : Char} (h : c ≠ '&') (rest : List Char) :
    unescapeHtmlChars (c :: rest) = c :: unescapeHtmlChars rest := by
  rw [unescapeHtmlChars] <;> intro _ heq <;> exact absurd heq h

/-- The escape of one character is undone, whatever follows. -/
theorem unescapeHtmlChars_escapeHtmlChar (c : Char) (rest : List Char) :
    unescapeHtmlChars (escapeHtmlChar c ++ rest) = c :: unescapeHtmlChars rest := by
  unfold escapeHtmlChar
  split
  case h_6 hamp _ _ _ _ => exact unescapeHtmlChars_cons hamp rest
  all_goals rfl

theorem unescapeHtmlChars_escapeHtmlChars (text : String) :
    unescapeHtmlChars (escapeHtmlChars text) = text.toList := by
  rw [escapeHtmlChars]
  induction text.toList with
  | nil => rfl
  | cons c rest ih => rw [List.flatMap_cons, unescapeHtmlChars_escapeHtmlChar, ih]

theorem all_escapeHtmlChar (c : Char) : (escapeHtmlChar c).all (!isDelimiter ·) = true := by
  unfold escapeHtmlChar
  split
  case h_6 _ hlt hgt hquote happ =>
    simp only [List.all_cons, List.all_nil, Bool.and_true, isDelimiter, Bool.not_eq_true',
      Bool.or_eq_false_iff, beq_eq_false_iff_ne]
    exact ⟨⟨⟨hlt, hgt⟩, hquote⟩, happ⟩
  all_goals rfl

/-- No character of an escaped text delimits anything. -/
theorem isDelimiter_of_mem_escapeHtmlChars {text : String} {d : Char}
    (h : d ∈ escapeHtmlChars text) : isDelimiter d = false := by
  obtain ⟨c, -, hd⟩ := List.mem_flatMap.1 h
  exact Bool.not_eq_true' _ ▸ List.all_eq_true.1 (all_escapeHtmlChar c) d hd

namespace Markup

/-! ### Reading a tag -/

/-- Where in a tag a reader is: in a name, after the equals sign that follows one, or in the value
of the attribute of a name. -/
inductive TagState where
  | name (done : List Char)
  | equals (name : List Char)
  | value (name done : List Char)

/-- The attribute of a name without a value, if there is a name. -/
def flagOf (name : List Char) : List Attribute :=
  if name = [] then [] else [⟨.ofList name, none⟩]

/-- Reads attributes up to the end of a tag. -/
def readAttributes : TagState → List Char → Option (List Attribute)
  | _, [] => none
  | .name done, c :: rest =>
    if c = '>' then some (flagOf done)
    else if c = ' ' then (readAttributes (.name []) rest).map (flagOf done ++ ·)
    else if c = '=' then readAttributes (.equals done) rest
    else readAttributes (.name (done ++ [c])) rest
  | .equals name, c :: rest => if c = '"' then readAttributes (.value name []) rest else none
  | .value name done, c :: rest =>
    if c = '"' then
      (readAttributes (.name []) rest).map
        (⟨.ofList name, some (.ofList (unescapeHtmlChars done))⟩ :: ·)
    else readAttributes (.value name (done ++ [c])) rest

/-- Reads an opening tag and its attributes; the name of the tag stands like an attribute without a
value. -/
def readOpening? : List Char → Option (String × List Attribute)
  | '<' :: rest =>
    match readAttributes (.name []) rest with
    | some (⟨tag, none⟩ :: attributes) => some (tag, attributes)
    | _ => none
  | _ => none

/-- Whether a character may stand in the name of a tag or of an attribute. -/
def isNameChar (c : Char) : Bool := c != '>' && c != ' ' && c != '='

/-- Whether a name is read to its end and no further. -/
def isPlainName (name : String) : Bool := !name.toList.isEmpty && name.toList.all isNameChar

theorem isPlainName_iff {name : String} : isPlainName name = true ↔
    name.toList ≠ [] ∧ ∀ c ∈ name.toList, isNameChar c = true := by
  rw [isPlainName, Bool.and_eq_true, Bool.not_eq_true', List.isEmpty_eq_false_iff,
    List.all_eq_true]

@[simp] theorem flagOf_nil : flagOf [] = [] := rfl

theorem flagOf_toList {name : String} (h : name.toList ≠ []) :
    flagOf name.toList = [⟨name, none⟩] := by
  rw [flagOf, if_neg h, String.ofList_toList]

/-- A name is read up to its end. -/
theorem readAttributes_name_append {name : List Char} (h : ∀ c ∈ name, isNameChar c = true)
    (done rest : List Char) :
    readAttributes (.name done) (name ++ rest) = readAttributes (.name (done ++ name)) rest := by
  induction name generalizing done with
  | nil => rw [List.nil_append, List.append_nil]
  | cons c name ih =>
      obtain ⟨hc, hname⟩ := List.forall_mem_cons.1 h
      simp only [isNameChar, Bool.and_eq_true, bne_iff_ne] at hc
      rw [List.cons_append, readAttributes, if_neg hc.1.1, if_neg hc.1.2, if_neg hc.2, ih hname,
        List.append_assoc, List.singleton_append]

/-- A value is read up to its closing quote. -/
theorem readAttributes_value_append {value : List Char} (h : '"' ∉ value)
    (name done rest : List Char) :
    readAttributes (.value name done) (value ++ rest) =
      readAttributes (.value name (done ++ value)) rest := by
  induction value generalizing done with
  | nil => rw [List.nil_append, List.append_nil]
  | cons c value ih =>
      obtain ⟨hc, hvalue⟩ := not_or.1 (List.mem_cons.not.1 h)
      rw [List.cons_append, readAttributes, if_neg (Ne.symm hc), ih hvalue, List.append_assoc,
        List.singleton_append]

theorem readAttributes_quoted (name rest : List Char) (value : String) :
    readAttributes (.name name) ('=' :: '"' :: (escapeHtmlChars value ++ '"' :: rest)) =
      (readAttributes (.name []) rest).map (⟨.ofList name, some value⟩ :: ·) := by
  have hquote : '"' ∉ escapeHtmlChars value := fun hmem =>
    absurd (isDelimiter_of_mem_escapeHtmlChars hmem) (by decide)
  rw [readAttributes, if_neg (by decide), if_neg (by decide), if_pos rfl, readAttributes,
    if_pos rfl, readAttributes_value_append hquote, List.nil_append, readAttributes, if_pos rfl,
    unescapeHtmlChars_escapeHtmlChars, String.ofList_toList]

/-- The attributes of a tag are read back after what has been read of a name. -/
theorem readAttributes_flatMap_chars {attributes : List Attribute}
    (h : ∀ item ∈ attributes, isPlainName item.name = true) (done rest : List Char) :
    readAttributes (.name done) (attributes.flatMap Attribute.chars ++ '>' :: rest) =
      some (flagOf done ++ attributes) := by
  induction attributes generalizing done with
  | nil => rw [List.flatMap_nil, List.nil_append, readAttributes, if_pos rfl, List.append_nil]
  | cons item attributes ih =>
      obtain ⟨hname, hattributes⟩ := List.forall_mem_cons.1 h
      obtain ⟨name, value⟩ := item
      obtain ⟨hne, hchars⟩ := isPlainName_iff.1 hname
      rw [List.flatMap_cons, Attribute.chars, List.append_assoc, List.cons_append, readAttributes,
        if_neg (by decide), if_pos rfl, List.append_assoc, readAttributes_name_append hchars,
        List.nil_append]
      cases value with
      | none =>
          rw [List.nil_append, ih hattributes, flagOf_toList hne]
          rfl
      | some value =>
          simp only [List.cons_append, List.append_assoc, List.nil_append]
          rw [readAttributes_quoted, ih hattributes, flagOf_nil, String.ofList_toList]
          rfl

/-- **An opening tag that is written is read back**, whatever stands in the values of its
attributes. -/
theorem readOpening?_chars_append {tag : String} {attributes : List Attribute}
    (htag : isPlainName tag = true) (h : ∀ item ∈ attributes, isPlainName item.name = true)
    (rest : List Char) :
    readOpening? ((opening tag attributes).chars ++ rest) = some (tag, attributes) := by
  obtain ⟨hne, hchars⟩ := isPlainName_iff.1 htag
  have hread : readAttributes (.name [])
      (tag.toList ++ (attributes.flatMap Attribute.chars ++ ['>']) ++ rest) =
        some (⟨tag, none⟩ :: attributes) := by
    rw [List.append_assoc, readAttributes_name_append hchars, List.nil_append, List.append_assoc,
      List.singleton_append, readAttributes_flatMap_chars h, flagOf_toList hne,
      List.singleton_append]
  rw [chars, List.cons_append, readOpening?, hread]

end Markup

end Questionnaire
