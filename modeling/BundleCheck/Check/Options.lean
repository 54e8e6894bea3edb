/-!
# Options of the checks

What the settings can say about each check, and the values that hold where they say nothing.
-/

namespace BundleCheck

/-- Options of the two checks that match opening and closing characters. The closing character at an
index belongs to the opening one at the same index. -/
structure PairOptions where
  opening : List Char
  closing : List Char
  /-- Leave out a character that stands between two quotes of one kind. -/
  ignoreQuoted : Bool
  /-- Read comments too. -/
  comments : Bool
deriving DecidableEq, Repr

namespace PairOptions

def brackets : PairOptions := ⟨['(', '[', '\x7b'], [')', ']', '\x7d'], true, false⟩

def typesetting : PairOptions :=
  ⟨['‘', '«', '„', '「', '《', '“'], ['’', '»', '“', '」', '》', '”'], true, false⟩

end PairOptions

structure KeyFormatOptions where
  pattern : String
deriving DecidableEq, Repr

/-- A letter, and after it letters, digits, underscores and dots, of which the last is a letter or a
digit. -/
def KeyFormatOptions.standard : KeyFormatOptions :=
  ⟨"^[a-zA-Z](?:[a-zA-Z0-9_.]*[a-zA-Z0-9])?$"⟩

structure MissingOptions where
  /-- A deferred key counts as missing too. -/
  strict : Bool
deriving DecidableEq, Repr

structure PunctuationOptions where
  /-- The endings that count, the first that fits being the one that is meant. -/
  endings : List String
deriving DecidableEq, Repr

def PunctuationOptions.standard : PunctuationOptions := ⟨[".", "?", "!", ":", "\\n"]⟩

structure QuotationOptions where
  marks : List Char
  comments : Bool
deriving DecidableEq, Repr

def QuotationOptions.standard : QuotationOptions := ⟨['"', '\x60'], false⟩

structure CaseOptions where
  /-- Leave values alone that begin with a digit. -/
  acceptDigits : Bool
deriving DecidableEq, Repr

/-- How a match of a substitution rule is rated. -/
inductive SubstitutionFlag where
  | suggest
  | fail
deriving DecidableEq, Repr

structure SubstitutionRule where
  pattern : String
  replacement : String
  flag : SubstitutionFlag
deriving DecidableEq, Repr

structure SubstitutionOptions where
  rules : List SubstitutionRule
  comments : Bool
deriving DecidableEq, Repr

/-- Three dots, and exclamation marks, question marks and blanks that are doubled. -/
def SubstitutionOptions.standard : SubstitutionOptions where
  rules :=
    [⟨"\\.\x7b3\x7d", "…", .suggest⟩, ⟨"!\x7b2,\x7d", "!", .suggest⟩,
      ⟨"\\?\x7b2,\x7d", "?", .suggest⟩, ⟨" \x7b2,\x7d", " ", .suggest⟩]
  comments := false

structure CommentOptions where
  comments : Bool
deriving DecidableEq, Repr

/-- The options of every check that has some. -/
structure CheckOptions where
  brackets : PairOptions := .brackets
  keyFormat : KeyFormatOptions := .standard
  missingTranslations : MissingOptions := ⟨false⟩
  punctuation : PunctuationOptions := .standard
  quotationMarks : QuotationOptions := .standard
  startsWithTheSameCase : CaseOptions := ⟨true⟩
  substitutions : SubstitutionOptions := .standard
  trailingWhiteChars : CommentOptions := ⟨false⟩
  typesettingQuotationMarks : PairOptions := .typesetting
  whiteCharsBeforeLinefeed : CommentOptions := ⟨false⟩
deriving DecidableEq, Repr

end BundleCheck
