import Questionnaire.Pattern.CharSet
import Questionnaire.Pattern.Escape
import Questionnaire.Text.CategoryTable
import Questionnaire.Text.PropertyTable
import Questionnaire.Text.ScriptTable

/-! # Properties of characters

`CharSet.withProperty?` finds the characters that a name such as `Lu`, `Letter`, `Greek` or
`Script=Han` selects: those of a general category, of a script, or with one of the properties that
either hold or do not. Letter case and the separators inside a name do not count, nor does a
leading `is`. -/

namespace Questionnaire.Pattern

namespace CharSet

/-- The union of some sets. -/
def unions : List CharSet → CharSet
  | [] => empty
  | set :: rest => union set (unions rest)

/-! ### General categories -/

open Text.Category in
/-- The general categories with their names. -/
def categories : List (List String × CharSet) := [
  (["lu", "uppercaseletter"],
    union (listed uppercaseLetter) (alternating uppercaseLetterAlternating)),
  (["ll", "lowercaseletter"],
    union (listed lowercaseLetter) (alternating lowercaseLetterAlternating)),
  (["lt", "titlecaseletter"], listed titlecaseLetter),
  (["lm", "modifierletter"], listed modifierLetter),
  (["lo", "otherletter"], listed otherLetter),
  (["mn", "nonspacingmark"], listed nonspacingMark),
  (["mc", "spacingmark"], listed spacingMark),
  (["me", "enclosingmark"], listed enclosingMark),
  (["nd", "decimalnumber", "digit"], listed decimalNumber),
  (["nl", "letternumber"], listed letterNumber),
  (["no", "othernumber"], listed otherNumber),
  (["pc", "connectorpunctuation"], listed connectorPunctuation),
  (["pd", "dashpunctuation"], listed dashPunctuation),
  (["ps", "openpunctuation"], listed openPunctuation),
  (["pe", "closepunctuation"], listed closePunctuation),
  (["pi", "initialpunctuation"], listed initialPunctuation),
  (["pf", "finalpunctuation"], listed finalPunctuation),
  (["po", "otherpunctuation"], listed otherPunctuation),
  (["sm", "mathsymbol"], listed mathSymbol),
  (["sc", "currencysymbol"], listed currencySymbol),
  (["sk", "modifiersymbol"], listed modifierSymbol),
  (["so", "othersymbol"], listed otherSymbol),
  (["zs", "spaceseparator"], listed spaceSeparator),
  (["zl", "lineseparator"], listed lineSeparator),
  (["zp", "paragraphseparator"], listed paragraphSeparator),
  (["cc", "control", "cntrl"], listed control),
  (["cf", "format"], listed format),
  (["co", "privateuse"], listed privateUse)]

/-- The characters of the categories whose short names are given. -/
def ofCategories (names : List String) : CharSet :=
  unions ((categories.filter fun entry => entry.1.any names.contains).map (·.2))

/-- All letters. -/
def letters : CharSet := ofCategories ["lu", "ll", "lt", "lm", "lo"]

/-- The characters that are assigned. -/
def assigned : CharSet := unions (categories.map (·.2))

/-- The classes that several categories make up, and those that none does, with their names. -/
def categoryGroups : List (List String × CharSet) := [
  (["l", "letter"], letters),
  (["lc", "casedletter"], ofCategories ["lu", "ll", "lt"]),
  (["m", "mark", "combiningmark"], ofCategories ["mn", "mc", "me"]),
  (["n", "number"], ofCategories ["nd", "nl", "no"]),
  (["p", "punctuation", "punct"], ofCategories ["pc", "pd", "ps", "pe", "pi", "pf", "po"]),
  (["s", "symbol"], ofCategories ["sm", "sc", "sk", "so"]),
  (["z", "separator"], ofCategories ["zs", "zl", "zp"]),
  (["c", "other"], union (ofCategories ["cc", "cf", "co"]) (complement assigned)),
  (["cn", "unassigned"], complement assigned),
  (["any"], complement empty),
  (["assigned"], assigned),
  (["ascii"], range '\x00' '\x7f')]

/-! ### Properties that hold or do not -/

open Text.Property in
/-- The properties that hold or do not, with their names. -/
def properties : List (List String × CharSet) := [
  (["alphabetic", "alpha"], unions [letters, ofCategories ["nl"], listed otherAlphabetic]),
  (["uppercase", "upper"], union (ofCategories ["lu"]) (listed otherUppercase)),
  (["lowercase", "lower"], union (ofCategories ["ll"]) (listed otherLowercase)),
  (["cased"],
    unions [ofCategories ["lu", "ll", "lt"], listed otherUppercase, listed otherLowercase]),
  (["caseignorable", "ci"], listed Text.caseIgnorableRanges),
  (["whitespace", "wspace", "space"], blanks),
  (["asciihexdigit", "ahex"], ofRanges [('0', '9'), ('A', 'F'), ('a', 'f')]),
  (["hexdigit", "hex"], ofRanges [('0', '9'), ('A', 'F'), ('a', 'f'), ('０', '９'), ('Ａ', 'Ｆ'),
    ('ａ', 'ｆ')]),
  (["joincontrol", "joinc"], range '\u200c' '\u200d'),
  (["math"], listed mathematical),
  (["dash"], listed dashes),
  (["ideographic", "ideo"], listed ideographs),
  (["emoji"], listed emoji),
  (["emojipresentation", "epres"], listed emojiByDefault),
  (["extendedpictographic", "extpict"], listed pictographs)]

/-! ### Names -/

/-- The set that has one of its names in a list of sets. -/
def lookUp (entries : List (List String × CharSet)) (name : String) : Option CharSet :=
  (entries.find? fun entry => entry.1.contains name).map (·.2)

/-- The general category of the name. -/
def category? (name : String) : Option CharSet :=
  lookUp categories name <|> lookUp categoryGroups name

/-- The script of the name or code. -/
def script? (name : String) : Option CharSet :=
  (Text.scripts.lookup ((Text.scriptCodes.lookup name).getD name)).map listed

/-- A name as it counts: in lower case, without separators and without a leading `is`. -/
def propertyName (name : List Char) : String :=
  let name := match name with
    | a :: b :: rest => if (a == 'i' || a == 'I') && (b == 's' || b == 'S') then rest else name
    | name => name
  .ofList ((name.filter fun c => c.toNat < 0x80 && c != ' ' && c != '_' && c != '-').map
    Char.toLower)

/-- The characters for which the named property has the named value. -/
def withValue? (property value : String) : Option CharSet :=
  match property with
  | "gc" | "generalcategory" => category? value
  | "sc" | "script" => script? value
  | _ => none

/-- A name with the value after its sign, and whether the sign negates. -/
def cutAtSign (name : List Char) : List Char × Option (Bool × List Char) :=
  let upTo (sign : Char) := (name.takeWhile (· != sign), (name.dropWhile (· != sign)).drop 1)
  match upTo '!' with
  | (before, '=' :: value) => (before, some (true, value))
  | _ =>
    if name.contains ':' then ((upTo ':').1, some (false, (upTo ':').2))
    else if name.contains '=' then ((upTo '=').1, some (false, (upTo '=').2))
    else (name, none)

/-- The characters that a name selects. -/
def withProperty? (name : List Char) : Option CharSet :=
  match cutAtSign name with
  | (name, none) =>
    let name := propertyName name
    lookUp properties name <|> category? name <|> script? name
  | (name, some (negated, value)) =>
    (withValue? (propertyName name) (propertyName value)).map fun set =>
      if negated then complement set else set

end CharSet

/-- Reads the name of a property, which is one character or stands in braces. -/
def readPropertyName : List Char → Except PatternError (List Char × List Char)
  | [] => .error .unknownProperty
  | '{' :: rest =>
    match rest.dropWhile (· != '}') with
    | _ :: after => .ok (rest.takeWhile (· != '}'), after)
    | [] => .error .unknownProperty
  | c :: rest => .ok ([c], rest)

/-- Reads the name of a property and gives the characters that have it, or those that lack it. -/
def readProperty (ignoreCase negated : Bool) (text : List Char) :
    Except PatternError (CharSet × List Char) := do
  let (name, rest) ← readPropertyName text
  match CharSet.withProperty? name with
  | none => throw .unknownProperty
  | some set =>
    let set := set.folded ignoreCase
    return (if negated then .complement set else set, rest)

end Questionnaire.Pattern
