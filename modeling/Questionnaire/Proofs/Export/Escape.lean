import Questionnaire.Proofs.Export.Rule

/-! # Escaping is exact

An escaped text has no delimiter in it, and an ampersand only where one of the five entities begins
(`exists_entity_of_escapeHtmlChars`), so it is decoded from left to right in one way, back to the
text, even if that looks escaped itself. Texts are escaped character by character, so a text in two
parts is escaped part by part (`escapeHtml_exact`). The values that reveal a question stand in its
element escaped after they have been written as JSON, and decoding and parsing give them back. -/

namespace Questionnaire

/-- The text that an escaped text stands for. -/
def unescapeHtml (text : String) : String := .ofList (unescapeHtmlChars text.toList)

/-- What is written for the characters that have a meaning in markup. -/
def htmlEntities : List String := ["&amp;", "&lt;", "&gt;", "&quot;", "&#39;"]

/-! ### Ampersands -/

/-- A character is escaped without an ampersand, or as an entity, which has no other one. -/
theorem escapeHtmlChar_cases (c : Char) : '&' ∉ escapeHtmlChar c ∨
    ∃ name, '&' ∉ name ∧ escapeHtmlChar c = '&' :: name ∧ .ofList ('&' :: name) ∈ htmlEntities := by
  unfold escapeHtmlChar
  split
  case h_6 hamp _ _ _ _ => exact .inl fun hmem => hamp (List.mem_singleton.1 hmem).symm
  all_goals exact .inr ⟨_, by decide, rfl, by decide⟩

theorem exists_entity_of_flatMap {text before after : List Char}
    (h : text.flatMap escapeHtmlChar = before ++ '&' :: after) :
    ∃ entity ∈ htmlEntities, entity.toList <+: '&' :: after := by
  induction text generalizing before with
  | nil => simp at h
  | cons c text ih =>
      rw [List.flatMap_cons, List.append_eq_append_iff] at h
      rcases h with ⟨more, -, hrest⟩ | ⟨more, hchar, hrest⟩
      · exact ih hrest
      cases more with
      | nil => exact @ih [] hrest.symm
      | cons first more =>
          obtain ⟨rfl, rfl⟩ := List.cons.inj hrest
          -- the ampersand belongs to what this character is escaped as
          rcases escapeHtmlChar_cases c with hnone | ⟨name, hname, hentity, hmem⟩
          · exact absurd (hchar ▸ List.mem_append_right _ List.mem_cons_self) hnone
          · rw [hentity] at hchar
            cases before with
            | nil =>
                refine ⟨_, hmem, ?_⟩
                rw [String.toList_ofList, hchar]
                exact List.prefix_append _ _
            | cons d before =>
                obtain ⟨-, rfl⟩ := List.cons.inj hchar
                exact absurd (List.mem_append_right _ List.mem_cons_self) hname

/-- Every ampersand of an escaped text begins one of the entities. -/
theorem exists_entity_of_escapeHtmlChars {text : String} {before after : List Char}
    (h : escapeHtmlChars text = before ++ '&' :: after) :
    ∃ entity ∈ htmlEntities, entity.toList <+: '&' :: after := exists_entity_of_flatMap h

/-! ### Decoding and parts -/

theorem toList_escapeHtml (text : String) : (escapeHtml text).toList = escapeHtmlChars text :=
  String.toList_ofList

theorem unescapeHtml_escapeHtml (text : String) : unescapeHtml (escapeHtml text) = text := by
  rw [unescapeHtml, toList_escapeHtml, unescapeHtmlChars_escapeHtmlChars, String.ofList_toList]

theorem escapeHtml_append (text more : String) :
    escapeHtml (text ++ more) = escapeHtml text ++ escapeHtml more := by
  simp only [escapeHtml, escapeHtmlChars, String.toList_append, List.flatMap_append,
    String.ofList_append]

/-! ### Values that reveal a question -/

/-- An attribute is written as its name and its escaped value in quotes, after a blank. -/
theorem Attribute.chars_attr (name value : String) :
    (attr name value).chars = (" " ++ name ++ "=\"" ++ escapeHtml value ++ "\"").toList := by
  simp [Attribute.chars, attr, toList_escapeHtml]

theorem Markup.attribute_infix_opening {attributes : List Attribute} {item : Attribute}
    (h : item ∈ attributes) (tag : String) :
    item.chars <:+: (Markup.opening tag attributes).chars := by
  have hitem : item.chars <:+: attributes.flatMap Attribute.chars := by
    rw [List.flatMap_def]
    exact List.infix_of_mem_flatten (List.mem_map_of_mem h)
  refine hitem.trans ⟨'<' :: tag.toList, ['>'], ?_⟩
  simp [Markup.chars]

namespace Question

variable {question : Question} {parent : QuestionId} {showWhen : ShowWhen}

/-- The element of a question that depends on another one tells in an attribute which values reveal
it. -/
theorem attr_mem_questionAttributes (hparent : question.parent = some parent)
    (hshowWhen : question.showWhen = some showWhen) (key : String) :
    attr "data-show-when" showWhen.toJson.compact ∈
      Markup.questionAttributes question key false := by
  simp [Markup.questionAttributes, Markup.parentAttributes, hparent, hshowWhen]

theorem showWhen_infix_render (hparent : question.parent = some parent)
    (hshowWhen : question.showWhen = some showWhen) (key : String) :
    (" data-show-when=\"" ++ escapeHtml showWhen.toJson.compact ++ "\"").toList <:+:
      Markup.render (Markup.question question key) := by
  have hchars := Markup.attribute_infix_opening
    (attr_mem_questionAttributes hparent hshowWhen key) "div"
  rw [Attribute.chars_attr] at hchars
  refine hchars.trans (List.IsPrefix.isInfix ?_)
  exact List.prefix_append _ _

end Question

/-- **Escaping is exact.** An escaped text has no delimiter in it, every ampersand in it begins one
of the entities, and decoding gives back the text. Texts are escaped part by part. So the values
that reveal a question are what its element gives to whoever reads the attribute that tells them,
decodes what stands there between the quotes and parses it. -/
theorem escapeHtml_exact :
    (∀ text, (∀ c ∈ ['<', '>', '"', '\''], c ∉ (escapeHtml text).toList) ∧
      (∀ before after, (escapeHtml text).toList = before ++ '&' :: after →
        ∃ entity ∈ htmlEntities, entity.toList <+: '&' :: after) ∧
      unescapeHtml (escapeHtml text) = text ∧
      ∀ more, escapeHtml (text ++ more) = escapeHtml text ++ escapeHtml more) ∧
    ∀ (question : Question) (parent : QuestionId) (showWhen : ShowWhen) (key : String),
      question.parent = some parent → question.showWhen = some showWhen →
      ∃ value attributes, '"' ∉ value.toList ∧
        (" data-show-when=\"" ++ value ++ "\"").toList <:+:
          Markup.render (Markup.question question key) ∧
        Markup.readOpening? (Markup.render (Markup.question question key)) =
          some ("div", attributes) ∧
        valueOf? attributes "data-show-when" = some (unescapeHtml value) ∧
        ShowWhen.decode.ofText (unescapeHtml value) = .ok showWhen := by
  have hplain (text : String) (c : Char) (hc : isDelimiter c = true) :
      c ∉ (escapeHtml text).toList := by
    rw [toList_escapeHtml]
    intro hmem
    rw [isDelimiter_of_mem_escapeHtmlChars hmem] at hc
    cases hc
  have hdelimiters : ['<', '>', '"', '\''].all isDelimiter = true := rfl
  constructor
  · intro text
    refine ⟨fun c hc => hplain text c (List.all_eq_true.1 hdelimiters c hc),
      fun before after h => ?_, unescapeHtml_escapeHtml text, escapeHtml_append text⟩
    rw [toList_escapeHtml] at h
    exact exists_entity_of_escapeHtmlChars h
  · intro question parent showWhen key hparent hshowWhen
    refine ⟨_, _, hplain _ '"' rfl, question.showWhen_infix_render hparent hshowWhen key,
      question.readOpening?_questionWith key false _, ?_, ?_⟩
    · rw [unescapeHtml_escapeHtml]
      simp [Markup.questionAttributes, hparent, hshowWhen]
    · rw [unescapeHtml_escapeHtml]
      exact showWhen.reads_toJson.ofText (showWhen.legible_toJson 0) (by decide)

/-- A text that looks escaped is escaped again, and a question with such values carries them. -/
theorem escapeHtml_exact_quotedQuestion :
    (∃ entity ∈ htmlEntities, entity.toList <+: "&quot;".toList) ∧
    Question.quotedQuestion.parent = some "a&amp;\"b'" ∧
    ∃ attributes, Markup.readOpening? (Markup.render
        (Markup.question Question.quotedQuestion "p0_s0_g0_q0_i0")) = some ("div", attributes) ∧
      ∃ text, valueOf? attributes "data-show-when" = some text ∧
        ShowWhen.decode.ofText text = .ok (.any ["\"yes\"", "<\\>"]) := by
  obtain ⟨htexts, hquestions⟩ := escapeHtml_exact
  obtain ⟨value, attributes, -, -, hread, hvalue, hdecode⟩ :=
    hquestions Question.quotedQuestion _ _ "p0_s0_g0_q0_i0" rfl rfl
  refine ⟨(htexts "&amp;\"").2.1 "&amp;amp;".toList "quot;".toList (by decide), rfl,
    attributes, hread, _, hvalue, hdecode⟩

end Questionnaire
