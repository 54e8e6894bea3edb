import BundleCheck.Unicode.Additions
import BundleCheck.Unicode.Letters
import BundleCheck.Unicode.Marks
import BundleCheck.Unicode.Numbers
import BundleCheck.Unicode.Punctuation
import BundleCheck.Unicode.Symbols

/-!
# Categories and properties

Every code point has exactly one general category. Surrogates are no characters, and the unassigned
code points are those that no table lists, so neither has a constructor here.

The properties decide what a blank, a letter, a number or a printable character is. White space is
decided by comparisons rather than by a table, because nearly every function on lines rests on it.
-/

namespace BundleCheck.Unicode

inductive Category where
  | uppercaseLetter | lowercaseLetter | titlecaseLetter | modifierLetter | otherLetter
  | nonspacingMark | spacingMark | enclosingMark
  | decimalNumber | letterNumber | otherNumber
  | connectorPunctuation | dashPunctuation | openPunctuation | closePunctuation
  | initialPunctuation | finalPunctuation | otherPunctuation
  | mathSymbol | currencySymbol | modifierSymbol | otherSymbol
  | spaceSeparator | lineSeparator | paragraphSeparator
  | control | format | privateUse
deriving DecidableEq, Repr

namespace Category

/-- The code points of a category. -/
def spans : Category → List Span
  | uppercaseLetter => uppercaseLetters
  | lowercaseLetter => lowercaseLetters
  | titlecaseLetter => titlecaseLetters
  | modifierLetter => modifierLetters
  | otherLetter => otherLetters
  | nonspacingMark => nonspacingMarks
  | spacingMark => spacingMarks
  | enclosingMark => enclosingMarks
  | decimalNumber => decimalNumbers
  | letterNumber => letterNumbers
  | otherNumber => otherNumbers
  | connectorPunctuation => Unicode.connectorPunctuation
  | dashPunctuation => Unicode.dashPunctuation
  | openPunctuation => Unicode.openPunctuation
  | closePunctuation => Unicode.closePunctuation
  | initialPunctuation => Unicode.initialPunctuation
  | finalPunctuation => Unicode.finalPunctuation
  | otherPunctuation => Unicode.otherPunctuation
  | mathSymbol => mathSymbols
  | currencySymbol => currencySymbols
  | modifierSymbol => modifierSymbols
  | otherSymbol => otherSymbols
  | spaceSeparator => spaceSeparators
  | lineSeparator => lineSeparators
  | paragraphSeparator => paragraphSeparators
  | control => controls
  | format => formatCharacters
  | privateUse => Unicode.privateUse

def letters : List Category :=
  [uppercaseLetter, lowercaseLetter, titlecaseLetter, modifierLetter, otherLetter]

def casedLetters : List Category := [uppercaseLetter, lowercaseLetter, titlecaseLetter]

def marks : List Category := [nonspacingMark, spacingMark, enclosingMark]

def numbers : List Category := [decimalNumber, letterNumber, otherNumber]

def punctuation : List Category :=
  [connectorPunctuation, dashPunctuation, openPunctuation, closePunctuation, initialPunctuation,
    finalPunctuation, otherPunctuation]

def symbols : List Category := [mathSymbol, currencySymbol, modifierSymbol, otherSymbol]

def separators : List Category := [spaceSeparator, lineSeparator, paragraphSeparator]

def assigned : List Category :=
  letters ++ marks ++ numbers ++ punctuation ++ symbols ++ separators ++
    [control, format, privateUse]

end Category

/-- Whether the character is of one of the categories. -/
def inCategories (categories : List Category) (c : Char) : Bool :=
  categories.any fun category => anyContains category.spans c

/-! ### Properties -/

/-- The property White_Space. -/
def isWhiteSpace (c : Char) : Bool :=
  let n := c.toNat
  (decide (0x9 ≤ n) && decide (n ≤ 0xD)) || n == 0x20 || n == 0x85 || n == 0xA0 || n == 0x1680 ||
    (decide (0x2000 ≤ n) && decide (n ≤ 0x200A)) || n == 0x2028 || n == 0x2029 || n == 0x202F ||
    n == 0x205F || n == 0x3000

/-- The property Alphabetic. -/
def isAlphabetic (c : Char) : Bool :=
  inCategories Category.letters c || inCategories [.letterNumber] c || anyContains otherAlphabetic c

/-- The property Uppercase. -/
def isUppercase (c : Char) : Bool :=
  inCategories [.uppercaseLetter] c || anyContains otherUppercase c

/-- Numbers of any kind, digits and fractions alike. -/
def isNumeric (c : Char) : Bool :=
  inCategories Category.numbers c

/-- Marks drawn onto the character before them. Halfwidth sound marks stand beside it and are none. -/
def isExtendingMark (c : Char) : Bool :=
  inCategories [.nonspacingMark, .enclosingMark] c || anyContains extendingSpacingMarks c

/-- Characters that can be shown as themselves: the space, and all assigned characters other than
separators, controls, format characters, private use and the letters that are not drawn. -/
def isPrintable (c : Char) : Bool :=
  c == ' ' ||
    inCategories (Category.letters ++ Category.marks ++ Category.numbers ++ Category.punctuation ++
      Category.symbols) c && !anyContains invisibleLetters c

end BundleCheck.Unicode
