import BundleCheck.Check.Agreement
import BundleCheck.Check.Keys
import BundleCheck.Check.Matching
import BundleCheck.Check.Name
import BundleCheck.Check.Nesting
import BundleCheck.Check.QuotationMarks
import BundleCheck.Check.WhiteSpace
import BundleCheck.Settings.Basic

/-!
# Checks and suites of checks

A check is a name together with its options, of which the patterns have been read. Six checks compare a
translation with its reference; the other seven look at one file alone, and so a reference undergoes
them as well. A suite is the list of the enabled checks in their fixed order.
-/

namespace BundleCheck

inductive Check where
  | brackets (options : PairOptions)
  | danglingKeys
  | emptyTranslations
  | formattingValues
  | keyFormat (written : String) (pattern : Pattern.Expression)
  | missingTranslations (strict : Bool)
  | punctuation (options : PunctuationOptions)
  | quotationMarks (options : QuotationOptions)
  | startsWithTheSameCase (options : CaseOptions)
  | substitutions (rules : List Substitutions.Rule) (comments : Bool)
  | trailingWhiteChars (options : CommentOptions)
  | typesettingQuotationMarks (options : PairOptions)
  | whiteCharsBeforeLinefeed (options : CommentOptions)
deriving DecidableEq, Repr

/-- A check that compares two files was given one. -/
inductive MissingReference where
  | missingReference
deriving DecidableEq, Repr

def MissingReference.message (_ : MissingReference) : String :=
  "Invalid argument: this check needs both a translation and a reference document"

namespace Check

def name : Check → CheckName
  | brackets _ => .brackets
  | danglingKeys => .danglingKeys
  | emptyTranslations => .emptyTranslations
  | formattingValues => .formattingValues
  | keyFormat _ _ => .keyFormat
  | missingTranslations _ => .missingTranslations
  | punctuation _ => .punctuation
  | quotationMarks _ => .quotationMarks
  | startsWithTheSameCase _ => .startsWithTheSameCase
  | substitutions _ _ => .substitutions
  | trailingWhiteChars _ => .trailingWhiteChars
  | typesettingQuotationMarks _ => .typesettingQuotationMarks
  | whiteCharsBeforeLinefeed _ => .whiteCharsBeforeLinefeed

/-- What a check does: it looks at one file, or compares it with its reference. -/
inductive Procedure where
  | single (findings : Content → List Finding)
  | pair (findings : Content → Content → List Finding)

def procedure : Check → Procedure
  | brackets o => .single (Nesting.findings o)
  | danglingKeys => .pair DanglingKeys.findings
  | emptyTranslations => .pair (Agreement.compare EmptyTranslations.remark?)
  | formattingValues => .pair (Agreement.compare FormattingValues.remark?)
  | keyFormat written pattern => .single (KeyFormat.findings written pattern)
  | missingTranslations strict => .pair (MissingTranslations.findings strict)
  | punctuation o => .pair (Agreement.compare (Punctuation.remark? o))
  | quotationMarks o => .single (QuotationMarks.findings o)
  | startsWithTheSameCase o => .pair (Agreement.compare (SameCase.remark? o))
  | substitutions rules comments => .single (Substitutions.findings rules comments)
  | trailingWhiteChars o => .single (TrailingWhiteSpace.findings o)
  | typesettingQuotationMarks o => .single (Nesting.findings o)
  | whiteCharsBeforeLinefeed o => .single (WhiteSpaceBeforeBreak.findings o)

/-- Whether the check looks at one file alone. -/
def isSingle (c : Check) : Bool :=
  match c.procedure with
  | .single _ => true
  | .pair _ => false

/-- The section that the check contributes for a file. -/
def run (c : Check) (translation : Content) (reference : Option Content) :
    Except MissingReference Section :=
  match c.procedure, reference with
  | .single findings, _ => .ok ⟨c.name.label, findings translation⟩
  | .pair findings, some reference => .ok ⟨c.name.label, findings translation reference⟩
  | .pair _, none => .error .missingReference

/-- The check with the given name under the given options. -/
def build (name : CheckName) (o : CheckOptions) : Except Pattern.Fault Check :=
  match name with
  | .brackets => .ok (brackets o.brackets)
  | .danglingKeys => .ok danglingKeys
  | .emptyTranslations => .ok emptyTranslations
  | .formattingValues => .ok formattingValues
  | .keyFormat => do
    let pattern ← Pattern.Expression.ofText o.keyFormat.pattern
    .ok (keyFormat o.keyFormat.pattern pattern)
  | .missingTranslations => .ok (missingTranslations o.missingTranslations.strict)
  | .punctuation => .ok (punctuation o.punctuation)
  | .quotationMarks => .ok (quotationMarks o.quotationMarks)
  | .startsWithTheSameCase => .ok (startsWithTheSameCase o.startsWithTheSameCase)
  | .substitutions => do
    let rules ← o.substitutions.rules.mapM Substitutions.Rule.ofWritten
    .ok (substitutions rules o.substitutions.comments)
  | .trailingWhiteChars => .ok (trailingWhiteChars o.trailingWhiteChars)
  | .typesettingQuotationMarks => .ok (typesettingQuotationMarks o.typesettingQuotationMarks)
  | .whiteCharsBeforeLinefeed => .ok (whiteCharsBeforeLinefeed o.whiteCharsBeforeLinefeed)

end Check

/-! ### Suites -/

abbrev Suite := List Check

namespace Settings

/-- The options of the checks. A strict run makes the check for missing translations strict. -/
def effectiveChecks (s : Settings) : CheckOptions :=
  if s.strict then { s.checks with missingTranslations := ⟨true⟩ } else s.checks

/-- The enabled checks in their fixed order. -/
def suite (s : Settings) : Except Pattern.Fault Suite :=
  (CheckName.all.filter s.enabledChecks.contains).mapM (Check.build · s.effectiveChecks)

end Settings

namespace Suite

/-- The checks that apply, which without a reference are those that need none. -/
def applicable (suite : Suite) (hasReference : Bool) : Suite :=
  suite.filter fun c => hasReference || c.isSingle

/-- The sections of all checks that apply. -/
def sections (suite : Suite) (translation : Content) (reference : Option Content) :
    Except MissingReference (List Section) :=
  (suite.applicable reference.isSome).mapM fun c => c.run translation reference

end Suite

end BundleCheck
