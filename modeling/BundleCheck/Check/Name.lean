/-!
# Names of the checks

There are thirteen checks. Each has an identifier, by which settings and command line ask for it, and
a label, under which its findings are listed. They always run in the order of `CheckName.all`.
-/

namespace BundleCheck

inductive CheckName where
  | brackets
  | danglingKeys
  | emptyTranslations
  | formattingValues
  | keyFormat
  | missingTranslations
  | punctuation
  | quotationMarks
  | startsWithTheSameCase
  | substitutions
  | trailingWhiteChars
  | typesettingQuotationMarks
  | whiteCharsBeforeLinefeed
deriving DecidableEq, Repr

namespace CheckName

/-- All checks, in the order in which they run. -/
def all : List CheckName :=
  [brackets, danglingKeys, emptyTranslations, formattingValues, keyFormat, missingTranslations,
    punctuation, quotationMarks, startsWithTheSameCase, substitutions, trailingWhiteChars,
    typesettingQuotationMarks, whiteCharsBeforeLinefeed]

def label : CheckName → String
  | brackets => "Brackets"
  | danglingKeys => "DanglingKeys"
  | emptyTranslations => "EmptyTranslations"
  | formattingValues => "FormattingValues"
  | keyFormat => "KeyFormat"
  | missingTranslations => "MissingTranslations"
  | punctuation => "Punctuation"
  | quotationMarks => "QuotationMarks"
  | startsWithTheSameCase => "StartsWithTheSameCase"
  | substitutions => "Substitutions"
  | trailingWhiteChars => "TrailingWhiteChars"
  | typesettingQuotationMarks => "TypesettingQuotationMarks"
  | whiteCharsBeforeLinefeed => "WhiteCharsBeforeLinefeed"

def identifier : CheckName → String
  | brackets => "brackets"
  | danglingKeys => "dangling-keys"
  | emptyTranslations => "empty-translations"
  | formattingValues => "formatting-values"
  | keyFormat => "key-format"
  | missingTranslations => "missing-translations"
  | punctuation => "punctuation"
  | quotationMarks => "quotation-marks"
  | startsWithTheSameCase => "starts-with-the-same-case"
  | substitutions => "substitutions"
  | trailingWhiteChars => "trailing-white-chars"
  | typesettingQuotationMarks => "typesetting-quotation-marks"
  | whiteCharsBeforeLinefeed => "white-chars-before-linefeed"

/-- The check with the given identifier. -/
def ofIdentifier? (s : String) : Option CheckName :=
  all.find? (·.identifier = s)

end CheckName

end BundleCheck
