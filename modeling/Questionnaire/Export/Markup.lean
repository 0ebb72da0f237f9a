/-! # Markup

A page is a row of `Markup` pieces: tags, texts and line breaks. `Markup.render` writes them out and
escapes every text and every value of an attribute, so neither can begin or end a tag or a
value. -/

namespace Questionnaire

/-- How a character stands in a text or in the value of an attribute. -/
def escapeHtmlChar : Char → List Char
  | '&' => ['&', 'a', 'm', 'p', ';']
  | '<' => ['&', 'l', 't', ';']
  | '>' => ['&', 'g', 't', ';']
  | '"' => ['&', 'q', 'u', 'o', 't', ';']
  | '\'' => ['&', '#', '3', '9', ';']
  | c => [c]

/-- The characters of a text with those escaped that have a meaning in markup. -/
def escapeHtmlChars (text : String) : List Char := text.toList.flatMap escapeHtmlChar

/-- A text with the characters escaped that have a meaning in markup. -/
def escapeHtml (text : String) : String := .ofList (escapeHtmlChars text)

/-- An attribute of a tag; one without a value is set by being there. -/
structure Attribute where
  name : String
  value : Option String
  deriving DecidableEq, Repr

/-- A piece of markup. -/
inductive Markup where
  | opening (tag : String) (attributes : List Attribute)
  | closing (tag : String)
  | text (value : String)
  | lineBreak
  deriving DecidableEq, Repr

/-- An attribute with a value. -/
def attr (name value : String) : Attribute := ⟨name, some value⟩

/-- An attribute without a value. -/
def flag (name : String) : Attribute := ⟨name, none⟩

/-- The characters of an attribute, after a blank. -/
def Attribute.chars (item : Attribute) : List Char :=
  ' ' :: (item.name.toList ++ (match item.value with
    | some value => '=' :: '"' :: (escapeHtmlChars value ++ ['"'])
    | none => []))

namespace Markup

/-- The characters of a piece. -/
def chars : Markup → List Char
  | opening tag attributes =>
    '<' :: (tag.toList ++ (attributes.flatMap Attribute.chars ++ ['>']))
  | closing tag => '<' :: '/' :: (tag.toList ++ ['>'])
  | text value => escapeHtmlChars value
  | lineBreak => ['\n']

/-- The characters of some pieces. -/
def render (pieces : List Markup) : List Char := pieces.flatMap chars

/-- Content between an opening tag and its closing tag. -/
def element (tag : String) (attributes : List Attribute) (content : List Markup) : List Markup :=
  opening tag attributes :: (content ++ [closing tag])

/-- Some pieces and a line break. -/
def line (pieces : List Markup) : List Markup := pieces ++ [lineBreak]

/-- Content between tags on lines of their own. -/
def block (tag : String) (attributes : List Attribute) (content : List Markup) : List Markup :=
  line [opening tag attributes] ++ content ++ line [closing tag]

/-- An element on a line of its own. -/
def elementLine (tag : String) (attributes : List Attribute) (content : List Markup) :
    List Markup :=
  line (element tag attributes content)

end Markup

end Questionnaire
