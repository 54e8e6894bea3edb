import BundleCheck.Pattern.CharSet
import BundleCheck.Unicode.Additions
import BundleCheck.Unicode.Basic
import BundleCheck.Unicode.Listed
import BundleCheck.Unicode.Property
import BundleCheck.Unicode.Scripts

/-!
# Named sets of characters

A pattern can name a property of characters, a general category or a script. Patterns follow version
16.0 of the Unicode standard, and the tables follow version 17.0, so the characters that came with that
version are taken out, and the one character that changed its category is put back. Names are spelled
loosely: case, blanks, hyphens, underscores and the word `is` before a name mean nothing. A category or a
script can also be given as the value of its property. Ages, extensions of scripts, the changes of case,
and the properties that say how texts are cut into graphemes, words and sentences, how they are punctuated
and how they are drawn from right to left have no table here, so their names are unknown.
-/

namespace BundleCheck.Pattern

open Unicode (Category)

inductive Property where
  | any
  | ascii
  | alphabetic
  | uppercase
  | lowercase
  | cased
  | whiteSpace
  | idStart
  | idContinue
  | xidStart
  | xidContinue
  | categories (categories : List Category)
  | unassigned
  | other
  | listed (spans : List Unicode.Span)

namespace Property

/-! ### Members -/

/-- The characters that version 16.0 has not yet. -/
def recent : CharSet := .ofSpans Unicode.addedInVersion17

/-- U+0295, which is a small letter in version 16.0 and an uncased one in version 17.0. -/
def recased : CharSet := .between 0x295 0x295

/-- The characters of a category in version 16.0. -/
def ofCategory (category : Category) : CharSet :=
  let current := (CharSet.ofSpans category.spans).diff recent
  match category with
  | .lowercaseLetter => current.union recased
  | .otherLetter => current.diff recased
  | _ => current

def ofCategories (categories : List Category) : CharSet :=
  .ofList (categories.map ofCategory)

/-- The characters of some spans that version 16.0 has. -/
def ofSpans (spans : List Unicode.Span) : CharSet := (CharSet.ofSpans spans).diff recent

def alphabeticChars : CharSet :=
  .ofList [ofCategories Category.letters, ofCategory .letterNumber, ofSpans Unicode.otherAlphabetic]

def uppercaseChars : CharSet := (ofCategory .uppercaseLetter).union (ofSpans Unicode.otherUppercase)

def lowercaseChars : CharSet := (ofCategory .lowercaseLetter).union (ofSpans Unicode.otherLowercase)

def digitChars : CharSet := ofCategory .decimalNumber

def whiteSpaceChars : CharSet :=
  .ofList [.between 0x9 0xD, .between 0x20 0x20, .between 0x85 0x85, .between 0xA0 0xA0,
    .between 0x1680 0x1680, .between 0x2000 0x200A, .between 0x2028 0x2029, .between 0x202F 0x202F,
    .between 0x205F 0x205F, .between 0x3000 0x3000]

/-- Characters that words are made of: letters, marks, digits, connectors and the two joiners. -/
def wordChars : CharSet :=
  .ofList [alphabeticChars, ofCategories Category.marks, digitChars, ofCategory .connectorPunctuation,
    .between 0x200C 0x200D]

def casedChars : CharSet := .ofList [uppercaseChars, lowercaseChars, ofCategory .titlecaseLetter]

/-- Characters that an identifier can begin with. -/
def idStartChars : CharSet :=
  (CharSet.ofList [ofCategories Category.letters, ofCategory .letterNumber,
    ofSpans Unicode.otherIdStart]).diff (ofSpans Unicode.syntacticLetters)

/-- Characters that an identifier can go on with. -/
def idContinueChars : CharSet :=
  .ofList [idStartChars, ofCategories [.nonspacingMark, .spacingMark, .decimalNumber, .connectorPunctuation],
    ofSpans Unicode.otherIdContinue]

/-- Those that an identifier can still begin with when it is normalized. -/
def xidStartChars : CharSet := idStartChars.diff (ofSpans Unicode.unstableIdStart)

/-- Those that an identifier can still go on with when it is normalized. -/
def xidContinueChars : CharSet := idContinueChars.diff (ofSpans Unicode.unstableIdContinue)

def unassignedChars : CharSet := (ofCategories Category.assigned).complement

def chars : Property → CharSet
  | any => .all
  | ascii => .between 0 0x7F
  | alphabetic => alphabeticChars
  | uppercase => uppercaseChars
  | lowercase => lowercaseChars
  | cased => casedChars
  | whiteSpace => whiteSpaceChars
  | idStart => idStartChars
  | idContinue => idContinueChars
  | xidStart => xidStartChars
  | xidContinue => xidContinueChars
  | categories cs => ofCategories cs
  | unassigned => unassignedChars
  | other => .ofList [ofCategories [.control, .format, .privateUse], unassignedChars]
  | listed spans => ofSpans spans

/-! ### Names -/

/-- The names of the general categories and of groups of them. -/
def categoryNames : List (List String × List Category) :=
  [(["assigned"], Category.assigned),
   (["l", "letter"], Category.letters),
   (["lc", "casedletter"], Category.casedLetters),
   (["lu", "uppercaseletter"], [.uppercaseLetter]),
   (["ll", "lowercaseletter"], [.lowercaseLetter]),
   (["lt", "titlecaseletter"], [.titlecaseLetter]),
   (["lm", "modifierletter"], [.modifierLetter]),
   (["lo", "otherletter"], [.otherLetter]),
   (["m", "mark", "combiningmark"], Category.marks),
   (["mn", "nonspacingmark"], [.nonspacingMark]),
   (["mc", "spacingmark"], [.spacingMark]),
   (["me", "enclosingmark"], [.enclosingMark]),
   (["n", "number"], Category.numbers),
   (["nd", "decimalnumber", "digit"], [.decimalNumber]),
   (["nl", "letternumber"], [.letterNumber]),
   (["no", "othernumber"], [.otherNumber]),
   (["p", "punctuation", "punct"], Category.punctuation),
   (["pc", "connectorpunctuation"], [.connectorPunctuation]),
   (["pd", "dashpunctuation"], [.dashPunctuation]),
   (["ps", "openpunctuation"], [.openPunctuation]),
   (["pe", "closepunctuation"], [.closePunctuation]),
   (["pi", "initialpunctuation"], [.initialPunctuation]),
   (["pf", "finalpunctuation"], [.finalPunctuation]),
   (["po", "otherpunctuation"], [.otherPunctuation]),
   (["s", "symbol"], Category.symbols),
   (["sm", "mathsymbol"], [.mathSymbol]),
   (["sc", "currencysymbol"], [.currencySymbol]),
   (["sk", "modifiersymbol"], [.modifierSymbol]),
   (["so", "othersymbol"], [.otherSymbol]),
   (["z", "separator"], Category.separators),
   (["zs", "spaceseparator"], [.spaceSeparator]),
   (["zl", "lineseparator"], [.lineSeparator]),
   (["zp", "paragraphseparator"], [.paragraphSeparator]),
   (["cc", "control", "cntrl"], [.control]),
   (["cf", "format"], [.format]),
   (["co", "privateuse"], [.privateUse])]

/-- What a table has under a name. -/
def entryOf? {α : Type} (table : List (List String × α)) (name : String) : Option α :=
  (table.find? (·.1.contains name)).map Prod.snd

def ofCategoryName? (name : String) : Option Property :=
  match name with
  | "any" => some any
  | "ascii" => some ascii
  | "c" | "other" => some other
  | "cn" | "unassigned" => some unassigned
  | _ => (entryOf? categoryNames name).map categories

def ofScriptName? (name : String) : Option Property := (entryOf? Unicode.scripts name).map listed

/-- The property, the general category or the script with the given name. -/
def ofLooseName? (name : String) : Option Property :=
  match name with
  | "alphabetic" | "alpha" => some alphabetic
  | "uppercase" | "upper" => some uppercase
  | "lowercase" | "lower" => some lowercase
  | "cased" => some cased
  | "whitespace" | "wspace" | "space" => some whiteSpace
  | "idstart" | "ids" => some idStart
  | "idcontinue" | "idc" => some idContinue
  | "xidstart" | "xids" => some xidStart
  | "xidcontinue" | "xidc" => some xidContinue
  | _ =>
    match entryOf? Unicode.listedProperties name with
    | some spans => some (listed spans)
    | none => (ofCategoryName? name).or (ofScriptName? name)

/-- The characters for which a property has a value. -/
def ofValue? (property value : String) : Option Property :=
  match property with
  | "generalcategory" | "gc" => ofCategoryName? value
  | "script" | "sc" => ofScriptName? value
  | _ => none

/-- The name without what means nothing in it. Behind the word `is` the name `c` is not the category but
the short name of a property that no pattern can ask for. -/
def looseName (name : List Char) : String :=
  let kept (cs : List Char) : List Char :=
    (cs.filter fun c => decide (c.toNat < 0x80) && !(c == ' ' || c == '-' || c == '_')).map Char.toLower
  match name with
  | i :: s :: rest =>
    if i.toLower = 'i' ∧ s.toLower = 's' then
      if kept rest = ['c'] then "isc" else String.ofList (kept rest)
    else String.ofList (kept name)
  | _ => String.ofList (kept name)

/-- What stands before and behind the first place where the sign is. -/
def cutAt? (sign : List Char) : List Char → Option (List Char × List Char)
  | [] => none
  | c :: rest =>
    if sign.isPrefixOf (c :: rest) then some ([], (c :: rest).drop sign.length)
    else (cutAt? sign rest).map fun (front, back) => (c :: front, back)

/-- A property as it is written, and whether what does not have it is meant. -/
def ofText? (text : List Char) : Option (Bool × Property) :=
  let value? (place : List Char × List Char) : Option Property :=
    ofValue? (looseName place.1) (looseName place.2)
  match cutAt? ['!', '='] text with
  | some place => (value? place).map (true, ·)
  | none =>
    match (cutAt? [':'] text).or (cutAt? ['='] text) with
    | some place => (value? place).map (false, ·)
    | none => (ofLooseName? (looseName text)).map (false, ·)

end Property

end BundleCheck.Pattern
