import BundleCheck.Bundle.Content
import BundleCheck.Check.Options
import BundleCheck.Finding

/-!
# Agreement of a translation with its reference

Four checks compare the value of an entry with the value under the same key in the reference. They are
functions of the two values, and `compare` runs such a function over the entries of a file.
-/

namespace BundleCheck

namespace Agreement

/-- What a comparison of two values says about an entry. -/
structure Remark where
  severity : Severity
  column : Option Nat
  message : String
deriving DecidableEq, Repr

/-- The finding on one line, given the value of each key in the reference. -/
def inspectLine (remark? : String → String → Option Remark) (counterpart : String → Option String)
    (number : Nat) : Line → List Finding
  | .entry e =>
    match counterpart e.key with
    | none => []
    | some reference =>
      (remark? e.value reference).toList.map fun r =>
        ⟨r.severity, some ⟨number, r.column⟩, some e.key, r.message⟩
  | _ => []

/-- The findings of a comparison that takes the value of the translation and that of the reference. -/
def compare (remark? : String → String → Option Remark) (translation reference : Content) :
    List Finding :=
  translation.inspect (inspectLine remark? reference.value?)

end Agreement

open Agreement (Remark)

/-! ### Empty translations -/

namespace EmptyTranslations

/-- A value without text, where the reference has some. -/
def remark? (value reference : String) : Option Remark :=
  if Text.isBlank value.toList && !Text.isBlank reference.toList then
    some ⟨.warning, none, "Empty translation."⟩
  else none

end EmptyTranslations

/-! ### Formatting specifiers -/

namespace FormattingValues

/-- Whether a specifier can hold the character behind its percent sign. -/
def isSpecifierChar (c : Char) : Bool :=
  c.isAlphanum || c == '$' || c == '#' || c == '+' || c == '.' || c == '(' || c == '-'

/-- A specifier with its percent sign, and the column of that sign. -/
structure Specifier where
  text : List Char
  column : Nat
deriving DecidableEq, Repr

/-- The specifiers of a text that begins at the given column. A percent sign begins one if a specifier
character follows, and the specifier goes on as long as they do. No specifier character is a percent
sign, so a sign within the rest is the next that can begin one. -/
def specifiersFrom (column : Nat) : List Char → List Specifier
  | [] => []
  | c :: rest =>
    if c = '%' ∧ rest.head?.any isSpecifierChar then
      ⟨c :: rest.takeWhile isSpecifierChar, column⟩ :: specifiersFrom (column + 1) rest
    else specifiersFrom (column + 1) rest

def specifiers (value : String) : List Specifier := specifiersFrom 1 value.toList

def countMessage (expected found : Nat) : String :=
  "Expected " ++ toString expected ++ " formatting values, found " ++ toString found ++ "."

def textMessage (expected found : List Char) : String :=
  "Expected \"" ++ String.ofList expected ++ "\", found \"" ++ String.ofList found ++ "\"."

/-- Two values agree in the number, the text and the order of their specifiers. -/
def remark? (value reference : String) : Option Remark :=
  let expected := specifiers reference
  let found := specifiers value
  if expected.length ≠ found.length then
    some ⟨.error, none, countMessage expected.length found.length⟩
  else
    ((expected.zip found).find? fun (e, f) => e.text != f.text).map fun (e, f) =>
      ⟨.error, some f.column, textMessage e.text f.text⟩

end FormattingValues

/-! ### Punctuation -/

namespace Punctuation

def endsWith (value ending : String) : Bool := ending.toList.isSuffixOf value.toList

/-- The first of the endings that is not empty and that the value has. -/
def ending? (endings : List String) (value : String) : Option String :=
  endings.find? fun ending => ending != "" && endsWith value ending

/-- How the value ends: with one of the endings, or else with its last character. -/
def actualEnding (endings : List String) (value : String) : String :=
  match ending? endings value with
  | some ending => ending
  | none => String.ofList value.toList.getLast?.toList

def message (found expected : String) : String :=
  "Ends with \"" ++ found ++ "\" while \"" ++ expected ++ "\" is expected."

/-- A value has to end as its reference does, if that has one of the endings. -/
def remark? (o : PunctuationOptions) (value reference : String) : Option Remark :=
  match ending? o.endings reference with
  | none => none
  | some expected =>
    if endsWith value expected then none
    else some ⟨.warning, none, message (actualEnding o.endings value) expected⟩

end Punctuation

/-! ### Case of the first letter -/

namespace SameCase

/-- Whether the value is left alone: it is empty, or begins with a digit where digits are accepted. -/
def isExempt (o : CaseOptions) (value : List Char) : Bool :=
  match value with
  | [] => true
  | c :: _ => o.acceptDigits && Unicode.isNumeric c

/-- The first letter that begins a word, given whether the text stands at the start of one. -/
def firstLetterFrom? (atWord : Bool) : List Char → Option Char
  | [] => none
  | c :: rest =>
    if atWord && Unicode.isAlphabetic c then some c
    else firstLetterFrom? (Unicode.isWhiteSpace c) rest

def firstLetter? (value : List Char) : Option Char := firstLetterFrom? true value

def caseName (upper : Bool) : String := if upper then "UPPER" else "lower"

def message (found expected : Bool) : String :=
  "Starts with " ++ caseName found ++ "-cased letter, expected " ++ caseName expected ++ "-cased."

/-- Two values agree in the case of their first letters. Where only one of them has a word that starts
with a letter, that is remarked too. -/
def remark? (o : CaseOptions) (value reference : String) : Option Remark :=
  if isExempt o value.toList || isExempt o reference.toList then none
  else
    match firstLetter? value.toList, firstLetter? reference.toList with
    | none, none => none
    | none, some _ =>
      some ⟨.warning, none, "Translation has no word starting with a letter."⟩
    | some _, none => some ⟨.warning, none, "Reference has no word starting with a letter."⟩
    | some found, some expected =>
      let found := Unicode.isUppercase found
      let expected := Unicode.isUppercase expected
      if found = expected then none else some ⟨.warning, none, message found expected⟩

end SameCase

end BundleCheck
