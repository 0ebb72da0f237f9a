/-! # Blank characters and blank-separated text

`isBlank` is the White_Space property of Unicode. Trimming, splitting and the test for a blank
text all go by it. A browser draws the line slightly differently (`isBrowserBlank`): it leaves
out the next-line control and takes the zero-width no-break space. -/

namespace Questionnaire.Text

/-- The characters with the property White_Space. -/
def isBlank (c : Char) : Bool :=
  ('\t' ≤ c && c ≤ '\r') || c == ' ' || c == '\u0085' || c == '\u00a0' || c == '\u1680'
    || ('\u2000' ≤ c && c ≤ '\u200a') || c == '\u2028' || c == '\u2029' || c == '\u202f'
    || c == '\u205f' || c == '\u3000'

/-- The characters that a browser counts as white space. -/
def isBrowserBlank (c : Char) : Bool := c == '\ufeff' || (isBlank c && c != '\u0085')

/-- The text without the blanks at its end. -/
def trimRight (text : List Char) : List Char := (text.reverse.dropWhile isBlank).reverse

/-- The text without the blanks at its two ends. -/
def trim (text : List Char) : List Char := trimRight (text.dropWhile isBlank)

/-- Whether a text holds nothing but blanks. -/
def blank (text : String) : Bool := text.toList.all isBlank

/-- The pieces between the characters that pass the test; one piece more than there are of
these. -/
def splitAt (separates : Char → Bool) : List Char → List (List Char)
  | [] => [[]]
  | c :: rest =>
    if separates c then [] :: splitAt separates rest
    else match splitAt separates rest with
      | [] => [[c]]
      | piece :: pieces => (c :: piece) :: pieces

/-- The non-empty pieces between blanks. -/
def words (text : List Char) : List (List Char) :=
  (splitAt isBlank text).filter (!·.isEmpty)

/-- The text before the first blank and the text after it. -/
def cutAtBlank (text : List Char) : Option (List Char × List Char) :=
  match text.dropWhile (!isBlank ·) with
  | [] => none
  | _ :: rest => some (text.takeWhile (!isBlank ·), rest)

theorem splitAt_ne_nil (separates : Char → Bool) (text : List Char) :
    splitAt separates text ≠ [] := by
  cases text with
  | nil => simp [splitAt]
  | cons c rest =>
    simp only [splitAt]
    split
    · simp
    · split <;> simp

end Questionnaire.Text
