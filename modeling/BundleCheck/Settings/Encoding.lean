import BundleCheck.Json.Reader
import BundleCheck.Settings.Basic

/-!
# Settings as JSON

Settings are written as an object that has every field, and read from one that can leave fields out.
A field that is left out has its default, so reading what was written gives the settings back, and
deleting a field from it resets just that field. Reading is strict about what it knows: a field with a
value of the wrong kind, or one given twice, is refused. An unknown field is passed over, save under
`checks`, where an unknown check is refused. A record can also be written as an array of its fields in
order, and a choice as an object whose only member has it for a name.
-/

namespace BundleCheck

/-! ### Records -/

/-- The fields of a record by name. -/
abbrev Fields := String → Option Json

namespace Json

/-- The fields that members give. None of the known ones can be given twice, and if the record is
closed no others can be given. -/
def fieldsOfMembers? (names : List String) (closed : Bool)
    (members : List (Option String × Json)) : Option Fields :=
  let given := members.map Prod.fst
  if given.all Option.isSome && (names.all fun name => given.count (some name) ≤ 1) &&
      (!closed || given.all fun name => name.all names.contains) then
    some fun name => members.lookup (some name)
  else none

/-- The fields that items give in the order of the names. -/
def fieldsOfItems? (names : List String) (items : List Json) : Option Fields :=
  if items.length ≤ names.length then some fun name => (names.zip items).lookup name else none

/-- The fields of a record, which is written by name or by position. -/
def fields? (names : List String) (closed : Bool) : Json → Option Fields
  | object members => fieldsOfMembers? names closed members
  | array items => fieldsOfItems? names items
  | _ => none

end Json

/-- The value of a field, or its default if it is left out. -/
def Fields.get? {α : Type} (fields : Fields) (name : String) (default : α)
    (decode : Json → Option α) : Option α :=
  match fields name with
  | some j => decode j
  | none => some default

/-! ### Values of fields -/

namespace Json

def toBool? : Json → Option Bool
  | bool b => some b
  | _ => none

def toText? : Json → Option String
  | string s => s
  | _ => none

def toChar? (j : Json) : Option Char := do
  match (← j.toText?).toList with
  | [c] => some c
  | _ => none

def toList? {α : Type} (decode : Json → Option α) : Json → Option (List α)
  | array items => items.mapM decode
  | _ => none

/-- One of several choices by name. -/
def toChoice? {α : Type} (ofName? : String → Option α) : Json → Option α
  | string (some name) => ofName? name
  | object [(some name, null)] => ofName? name
  | _ => none

end Json

/-! ### Options of the checks -/

namespace PairOptions

def toJson (o : PairOptions) : Json :=
  .record
    [("opening", .chars o.opening), ("closing", .chars o.closing),
      ("ignoreQuoted", .bool o.ignoreQuoted), ("comments", .bool o.comments)]

def ofJson? (standard : PairOptions) (j : Json) : Option PairOptions := do
  let fields ← j.fields? ["opening", "closing", "ignoreQuoted", "comments"] false
  some
    { opening := ← fields.get? "opening" standard.opening (Json.toList? Json.toChar?)
      closing := ← fields.get? "closing" standard.closing (Json.toList? Json.toChar?)
      ignoreQuoted := ← fields.get? "ignoreQuoted" standard.ignoreQuoted Json.toBool?
      comments := ← fields.get? "comments" standard.comments Json.toBool? }

end PairOptions

namespace KeyFormatOptions

def toJson (o : KeyFormatOptions) : Json := .record [("pattern", .text o.pattern)]

def ofJson? (j : Json) : Option KeyFormatOptions := do
  let fields ← j.fields? ["pattern"] false
  some { pattern := ← fields.get? "pattern" standard.pattern Json.toText? }

end KeyFormatOptions

namespace MissingOptions

def toJson (o : MissingOptions) : Json := .record [("strict", .bool o.strict)]

def ofJson? (j : Json) : Option MissingOptions := do
  let fields ← j.fields? ["strict"] false
  some { strict := ← fields.get? "strict" false Json.toBool? }

end MissingOptions

namespace PunctuationOptions

def toJson (o : PunctuationOptions) : Json := .record [("chars", .texts o.endings)]

def ofJson? (j : Json) : Option PunctuationOptions := do
  let fields ← j.fields? ["chars"] false
  some { endings := ← fields.get? "chars" standard.endings (Json.toList? Json.toText?) }

end PunctuationOptions

namespace QuotationOptions

def toJson (o : QuotationOptions) : Json :=
  .record [("chars", .chars o.marks), ("comments", .bool o.comments)]

def ofJson? (j : Json) : Option QuotationOptions := do
  let fields ← j.fields? ["chars", "comments"] false
  some
    { marks := ← fields.get? "chars" standard.marks (Json.toList? Json.toChar?)
      comments := ← fields.get? "comments" standard.comments Json.toBool? }

end QuotationOptions

namespace CaseOptions

def toJson (o : CaseOptions) : Json := .record [("acceptDigits", .bool o.acceptDigits)]

def ofJson? (j : Json) : Option CaseOptions := do
  let fields ← j.fields? ["acceptDigits"] false
  some { acceptDigits := ← fields.get? "acceptDigits" true Json.toBool? }

end CaseOptions

namespace SubstitutionFlag

def name : SubstitutionFlag → String
  | suggest => "DEFAULT"
  | fail => "FAIL_WITH_ERROR"

def ofName? (s : String) : Option SubstitutionFlag :=
  [suggest, fail].find? (·.name = s)

end SubstitutionFlag

namespace SubstitutionRule

def toJson (r : SubstitutionRule) : Json :=
  .record
    [("regexp", .text r.pattern), ("replace", .text r.replacement), ("flag", .text r.flag.name)]

/-- A rule has to name its pattern and its replacement. -/
def ofJson? (j : Json) : Option SubstitutionRule := do
  let fields ← j.fields? ["regexp", "replace", "flag"] false
  some
    { pattern := ← (← fields "regexp").toText?
      replacement := ← (← fields "replace").toText?
      flag := ← fields.get? "flag" .suggest (Json.toChoice? SubstitutionFlag.ofName?) }

end SubstitutionRule

namespace SubstitutionOptions

def toJson (o : SubstitutionOptions) : Json :=
  .record [("rules", .array (o.rules.map SubstitutionRule.toJson)), ("comments", .bool o.comments)]

def ofJson? (j : Json) : Option SubstitutionOptions := do
  let fields ← j.fields? ["rules", "comments"] false
  some
    { rules := ← fields.get? "rules" standard.rules (Json.toList? SubstitutionRule.ofJson?)
      comments := ← fields.get? "comments" standard.comments Json.toBool? }

end SubstitutionOptions

namespace CommentOptions

def toJson (o : CommentOptions) : Json := .record [("comments", .bool o.comments)]

def ofJson? (j : Json) : Option CommentOptions := do
  let fields ← j.fields? ["comments"] false
  some { comments := ← fields.get? "comments" false Json.toBool? }

end CommentOptions

namespace CheckOptions

/-- The checks that have options. -/
def fieldNames : List String :=
  ["brackets", "key-format", "missing-translations", "punctuation", "quotation-marks",
    "starts-with-the-same-case", "substitutions", "trailing-white-chars",
    "typesetting-quotation-marks", "white-chars-before-linefeed"]

def toJson (o : CheckOptions) : Json :=
  .record
    [("brackets", o.brackets.toJson),
      ("key-format", o.keyFormat.toJson),
      ("missing-translations", o.missingTranslations.toJson),
      ("punctuation", o.punctuation.toJson),
      ("quotation-marks", o.quotationMarks.toJson),
      ("starts-with-the-same-case", o.startsWithTheSameCase.toJson),
      ("substitutions", o.substitutions.toJson),
      ("trailing-white-chars", o.trailingWhiteChars.toJson),
      ("typesetting-quotation-marks", o.typesettingQuotationMarks.toJson),
      ("white-chars-before-linefeed", o.whiteCharsBeforeLinefeed.toJson)]

def ofJson? (j : Json) : Option CheckOptions := do
  let d : CheckOptions := {}
  let fields ← j.fields? fieldNames true
  some
    { brackets := ← fields.get? "brackets" d.brackets (PairOptions.ofJson? .brackets)
      keyFormat := ← fields.get? "key-format" d.keyFormat KeyFormatOptions.ofJson?
      missingTranslations :=
        ← fields.get? "missing-translations" d.missingTranslations MissingOptions.ofJson?
      punctuation := ← fields.get? "punctuation" d.punctuation PunctuationOptions.ofJson?
      quotationMarks := ← fields.get? "quotation-marks" d.quotationMarks QuotationOptions.ofJson?
      startsWithTheSameCase :=
        ← fields.get? "starts-with-the-same-case" d.startsWithTheSameCase CaseOptions.ofJson?
      substitutions := ← fields.get? "substitutions" d.substitutions SubstitutionOptions.ofJson?
      trailingWhiteChars :=
        ← fields.get? "trailing-white-chars" d.trailingWhiteChars CommentOptions.ofJson?
      typesettingQuotationMarks :=
        ← fields.get? "typesetting-quotation-marks" d.typesettingQuotationMarks
          (PairOptions.ofJson? .typesetting)
      whiteCharsBeforeLinefeed :=
        ← fields.get? "white-chars-before-linefeed" d.whiteCharsBeforeLinefeed
          CommentOptions.ofJson? }

end CheckOptions

/-! ### Settings -/

namespace Settings

def fieldNames : List String :=
  ["separator", "commentMarker", "commentedOutMarker", "fileSuffix", "languages", "files", "strict",
    "fatal", "color", "quiet", "verbose", "update", "create", "writeContent", "writeReference",
    "enabledChecks", "checks"]

def toJson (s : Settings) : Json :=
  .record
    [("separator", .char s.separator),
      ("commentMarker", .char s.commentMarker),
      ("commentedOutMarker", .text s.deferralMarker),
      ("fileSuffix", .text s.fileSuffix),
      ("languages", .texts s.languages),
      ("files", .texts s.files),
      ("strict", .bool s.strict),
      ("fatal", .bool s.fatal),
      ("color", .bool s.color),
      ("quiet", .bool s.quiet),
      ("verbose", .bool s.verbose),
      ("update", .bool s.update),
      ("create", .bool s.create),
      ("writeContent", .bool s.writeContent),
      ("writeReference", .bool s.writeReference),
      ("enabledChecks", .texts (s.enabledChecks.map CheckName.identifier)),
      ("checks", s.checks.toJson)]

def ofJson? (j : Json) : Option Settings := do
  let d : Settings := standard
  let fields ← j.fields? fieldNames false
  let flag (name : String) (default : Bool) := fields.get? name default Json.toBool?
  some
    { separator := ← fields.get? "separator" d.separator Json.toChar?
      commentMarker := ← fields.get? "commentMarker" d.commentMarker Json.toChar?
      deferralMarker := ← fields.get? "commentedOutMarker" d.deferralMarker Json.toText?
      fileSuffix := ← fields.get? "fileSuffix" d.fileSuffix Json.toText?
      languages := ← fields.get? "languages" d.languages (Json.toList? Json.toText?)
      files := ← fields.get? "files" d.files (Json.toList? Json.toText?)
      strict := ← flag "strict" d.strict
      fatal := ← flag "fatal" d.fatal
      color := ← flag "color" d.color
      quiet := ← flag "quiet" d.quiet
      verbose := ← flag "verbose" d.verbose
      update := ← flag "update" d.update
      create := ← flag "create" d.create
      writeContent := ← flag "writeContent" d.writeContent
      writeReference := ← flag "writeReference" d.writeReference
      enabledChecks :=
        ← fields.get? "enabledChecks" d.enabledChecks
          (Json.toList? (Json.toChoice? CheckName.ofIdentifier?))
      checks := ← fields.get? "checks" d.checks CheckOptions.ofJson? }

/-- The settings that the text of a file writes down. -/
def ofText? (text : String) : Option Settings :=
  (Json.ofText? text).bind ofJson?

def toText (s : Settings) : String := s.toJson.toText

end Settings

end BundleCheck
