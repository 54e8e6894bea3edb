import BundleCheck.Proofs.Settings.Deletion

/-!
# Settings with fields left out

Settings that are written as JSON can lose any of their fields, at every depth, and what is read again are the same
settings with the default in the place of each field that is lost. A field that is kept has its value, also next to
one that is lost, and a default is the one of the record that the field is in. Only pattern and replacement of a
substitution have no default and have to stay.
-/

namespace BundleCheck

open Json (Places)

/-! ### Values that are kept whole -/

namespace Json

theorem toList?_chars (gone : Places) (cs : List Char) : toList? toChar? ((chars cs).without gone) = some cs :=
  toList?_without_of_leaves (fun _ c => toChar?_char c) gone cs

theorem toList?_texts (gone : Places) (ss : List String) : toList? toText? ((texts ss).without gone) = some ss :=
  toList?_without_of_leaves (fun _ _ => rfl) gone ss

end Json

theorem CheckName.ofIdentifier?_identifier (n : CheckName) : ofIdentifier? n.identifier = some n := by
  cases n <;> rfl

theorem SubstitutionFlag.ofName?_name (f : SubstitutionFlag) : ofName? f.name = some f := by
  cases f <;> rfl

theorem CheckName.toList?_identifiers (gone : Places) (names : List CheckName) :
    Json.toList? (Json.toChoice? ofIdentifier?) ((Json.texts (names.map identifier)).without gone) = some names := by
  rw [Json.texts, List.map_map]
  exact Json.toList?_without_of_leaves (fun _ n => ofIdentifier?_identifier n) gone names

/-! ### Options of the checks -/

section Options

variable (gone : Places)

def PairOptions.resetAt (o standard : PairOptions) : PairOptions where
  opening := gone.pick "opening" standard.opening o.opening
  closing := gone.pick "closing" standard.closing o.closing
  ignoreQuoted := gone.pick "ignoreQuoted" standard.ignoreQuoted o.ignoreQuoted
  comments := gone.pick "comments" standard.comments o.comments

theorem PairOptions.ofJson?_without (o standard : PairOptions) :
    ofJson? standard (o.toJson.without gone) = some (o.resetAt gone standard) := by
  rw [ofJson?, toJson, Json.fields?_without_bind (by rfl) (by decide),
    Json.get?_remaining rfl (Json.toList?_chars _ o.opening), Json.get?_remaining rfl (Json.toList?_chars _ o.closing),
    Json.get?_remaining rfl (Json.toBool?_bool o.ignoreQuoted), Json.get?_remaining rfl (Json.toBool?_bool o.comments)]
  rfl

def KeyFormatOptions.resetAt (o standard : KeyFormatOptions) : KeyFormatOptions where
  pattern := gone.pick "pattern" standard.pattern o.pattern

theorem KeyFormatOptions.ofJson?_without (o : KeyFormatOptions) :
    ofJson? (o.toJson.without gone) = some (o.resetAt gone standard) := by
  rw [ofJson?, toJson, Json.fields?_without_bind (by rfl) (by decide),
    Json.get?_remaining rfl (Json.toText?_text o.pattern)]
  rfl

def MissingOptions.resetAt (o standard : MissingOptions) : MissingOptions where
  strict := gone.pick "strict" standard.strict o.strict

theorem MissingOptions.ofJson?_without (o : MissingOptions) :
    ofJson? (o.toJson.without gone) = some (o.resetAt gone ⟨false⟩) := by
  rw [ofJson?, toJson, Json.fields?_without_bind (by rfl) (by decide),
    Json.get?_remaining rfl (Json.toBool?_bool o.strict)]
  rfl

def PunctuationOptions.resetAt (o standard : PunctuationOptions) : PunctuationOptions where
  endings := gone.pick "chars" standard.endings o.endings

theorem PunctuationOptions.ofJson?_without (o : PunctuationOptions) :
    ofJson? (o.toJson.without gone) = some (o.resetAt gone standard) := by
  rw [ofJson?, toJson, Json.fields?_without_bind (by rfl) (by decide),
    Json.get?_remaining rfl (Json.toList?_texts _ o.endings)]
  rfl

def QuotationOptions.resetAt (o standard : QuotationOptions) : QuotationOptions where
  marks := gone.pick "chars" standard.marks o.marks
  comments := gone.pick "comments" standard.comments o.comments

theorem QuotationOptions.ofJson?_without (o : QuotationOptions) :
    ofJson? (o.toJson.without gone) = some (o.resetAt gone standard) := by
  rw [ofJson?, toJson, Json.fields?_without_bind (by rfl) (by decide),
    Json.get?_remaining rfl (Json.toList?_chars _ o.marks), Json.get?_remaining rfl (Json.toBool?_bool o.comments)]
  rfl

def CaseOptions.resetAt (o standard : CaseOptions) : CaseOptions where
  acceptDigits := gone.pick "acceptDigits" standard.acceptDigits o.acceptDigits

theorem CaseOptions.ofJson?_without (o : CaseOptions) :
    ofJson? (o.toJson.without gone) = some (o.resetAt gone ⟨true⟩) := by
  rw [ofJson?, toJson, Json.fields?_without_bind (by rfl) (by decide),
    Json.get?_remaining rfl (Json.toBool?_bool o.acceptDigits)]
  rfl

/-- No rule stands for the others, so a rule says itself what its flag is reset to. -/
def SubstitutionRule.resetAt (r : SubstitutionRule) : SubstitutionRule :=
  { r with flag := gone.pick "flag" .suggest r.flag }

theorem SubstitutionRule.ofJson?_without (r : SubstitutionRule) (hpattern : gone.has "regexp" = false)
    (hreplacement : gone.has "replace" = false) : ofJson? (r.toJson.without gone) = some (r.resetAt gone) := by
  rw [ofJson?, toJson, Json.fields?_without_bind (by rfl) (by decide), Json.remaining_of_kept hpattern rfl,
    Json.remaining_of_kept hreplacement rfl, Json.get?_remaining rfl (SubstitutionFlag.ofName?_name r.flag)]
  rfl

def SubstitutionOptions.resetAt (o standard : SubstitutionOptions) : SubstitutionOptions where
  rules := gone.pick "rules" standard.rules
    (o.rules.mapIdx fun i r => r.resetAt ((gone.under "rules").behind (.item i)))
  comments := gone.pick "comments" standard.comments o.comments

theorem SubstitutionOptions.ofJson?_without (o : SubstitutionOptions)
    (hpattern : ∀ i, ((gone.under "rules").behind (.item i)).has "regexp" = false)
    (hreplacement : ∀ i, ((gone.under "rules").behind (.item i)).has "replace" = false) :
    ofJson? (o.toJson.without gone) = some (o.resetAt gone standard) := by
  have hrules := Json.toList?_without (gone.under "rules")
    (fun i r => SubstitutionRule.ofJson?_without _ r (hpattern i) (hreplacement i)) o.rules
  rw [ofJson?, toJson, Json.fields?_without_bind (by rfl) (by decide), Json.get?_remaining rfl hrules,
    Json.get?_remaining rfl (Json.toBool?_bool o.comments)]
  rfl

def CommentOptions.resetAt (o standard : CommentOptions) : CommentOptions where
  comments := gone.pick "comments" standard.comments o.comments

theorem CommentOptions.ofJson?_without (o : CommentOptions) :
    ofJson? (o.toJson.without gone) = some (o.resetAt gone ⟨false⟩) := by
  rw [ofJson?, toJson, Json.fields?_without_bind (by rfl) (by decide),
    Json.get?_remaining rfl (Json.toBool?_bool o.comments)]
  rfl

def CheckOptions.resetAt (o standard : CheckOptions) : CheckOptions where
  brackets := gone.pick "brackets" standard.brackets (o.brackets.resetAt (gone.under "brackets") standard.brackets)
  keyFormat :=
    gone.pick "key-format" standard.keyFormat (o.keyFormat.resetAt (gone.under "key-format") standard.keyFormat)
  missingTranslations :=
    gone.pick "missing-translations" standard.missingTranslations
      (o.missingTranslations.resetAt (gone.under "missing-translations") standard.missingTranslations)
  punctuation :=
    gone.pick "punctuation" standard.punctuation
      (o.punctuation.resetAt (gone.under "punctuation") standard.punctuation)
  quotationMarks :=
    gone.pick "quotation-marks" standard.quotationMarks
      (o.quotationMarks.resetAt (gone.under "quotation-marks") standard.quotationMarks)
  startsWithTheSameCase :=
    gone.pick "starts-with-the-same-case" standard.startsWithTheSameCase
      (o.startsWithTheSameCase.resetAt (gone.under "starts-with-the-same-case") standard.startsWithTheSameCase)
  substitutions :=
    gone.pick "substitutions" standard.substitutions
      (o.substitutions.resetAt (gone.under "substitutions") standard.substitutions)
  trailingWhiteChars :=
    gone.pick "trailing-white-chars" standard.trailingWhiteChars
      (o.trailingWhiteChars.resetAt (gone.under "trailing-white-chars") standard.trailingWhiteChars)
  typesettingQuotationMarks :=
    gone.pick "typesetting-quotation-marks" standard.typesettingQuotationMarks
      (o.typesettingQuotationMarks.resetAt (gone.under "typesetting-quotation-marks")
        standard.typesettingQuotationMarks)
  whiteCharsBeforeLinefeed :=
    gone.pick "white-chars-before-linefeed" standard.whiteCharsBeforeLinefeed
      (o.whiteCharsBeforeLinefeed.resetAt (gone.under "white-chars-before-linefeed") standard.whiteCharsBeforeLinefeed)

theorem CheckOptions.ofJson?_without (o : CheckOptions)
    (hpattern : ∀ i, (((gone.under "substitutions").under "rules").behind (.item i)).has "regexp" = false)
    (hreplacement : ∀ i, (((gone.under "substitutions").under "rules").behind (.item i)).has "replace" = false) :
    ofJson? (o.toJson.without gone) = some (o.resetAt gone {}) := by
  rw [ofJson?, toJson, Json.fields?_without_bind (by rfl) (by decide),
    Json.get?_remaining rfl (PairOptions.ofJson?_without _ o.brackets .brackets),
    Json.get?_remaining rfl (KeyFormatOptions.ofJson?_without _ o.keyFormat),
    Json.get?_remaining rfl (MissingOptions.ofJson?_without _ o.missingTranslations),
    Json.get?_remaining rfl (PunctuationOptions.ofJson?_without _ o.punctuation),
    Json.get?_remaining rfl (QuotationOptions.ofJson?_without _ o.quotationMarks),
    Json.get?_remaining rfl (CaseOptions.ofJson?_without _ o.startsWithTheSameCase),
    Json.get?_remaining rfl (SubstitutionOptions.ofJson?_without _ o.substitutions hpattern hreplacement),
    Json.get?_remaining rfl (CommentOptions.ofJson?_without _ o.trailingWhiteChars),
    Json.get?_remaining rfl (PairOptions.ofJson?_without _ o.typesettingQuotationMarks .typesetting),
    Json.get?_remaining rfl (CommentOptions.ofJson?_without _ o.whiteCharsBeforeLinefeed)]
  rfl

end Options

/-! ### Settings -/

namespace Settings

/-- The settings with the value of the standard ones in each field that is among the places, at any depth. -/
def resetAt (gone : Places) (s : Settings) : Settings where
  separator := gone.pick "separator" standard.separator s.separator
  commentMarker := gone.pick "commentMarker" standard.commentMarker s.commentMarker
  deferralMarker := gone.pick "commentedOutMarker" standard.deferralMarker s.deferralMarker
  fileSuffix := gone.pick "fileSuffix" standard.fileSuffix s.fileSuffix
  languages := gone.pick "languages" standard.languages s.languages
  files := gone.pick "files" standard.files s.files
  strict := gone.pick "strict" standard.strict s.strict
  fatal := gone.pick "fatal" standard.fatal s.fatal
  color := gone.pick "color" standard.color s.color
  quiet := gone.pick "quiet" standard.quiet s.quiet
  verbose := gone.pick "verbose" standard.verbose s.verbose
  update := gone.pick "update" standard.update s.update
  create := gone.pick "create" standard.create s.create
  writeContent := gone.pick "writeContent" standard.writeContent s.writeContent
  writeReference := gone.pick "writeReference" standard.writeReference s.writeReference
  enabledChecks := gone.pick "enabledChecks" standard.enabledChecks s.enabledChecks
  checks := gone.pick "checks" standard.checks (s.checks.resetAt (gone.under "checks") standard.checks)

theorem resetAt_nothing (s : Settings) : s.resetAt (fun _ => false) = s := by
  have hrules : s.checks.substitutions.rules.mapIdx (fun _ r => r) = s.checks.substitutions.rules :=
    List.mapIdx_eq_iff.2 fun i => by rw [Option.map_id']
  exact congrArg (fun rules =>
    { s with checks := { s.checks with substitutions := { s.checks.substitutions with rules } } }) hrules

theorem ofJson?_without (gone : Places) (s : Settings)
    (hpattern : ∀ i, gone [.member "checks", .member "substitutions", .member "rules", .item i, .member "regexp"] = false)
    (hreplacement :
      ∀ i, gone [.member "checks", .member "substitutions", .member "rules", .item i, .member "replace"] = false) :
    ofJson? (s.toJson.without gone) = some (s.resetAt gone) := by
  rw [ofJson?, toJson, Json.fields?_without_bind (by rfl) (by decide)]
  dsimp only
  rw [Json.get?_remaining rfl (Json.toChar?_char s.separator),
    Json.get?_remaining rfl (Json.toChar?_char s.commentMarker),
    Json.get?_remaining rfl (Json.toText?_text s.deferralMarker),
    Json.get?_remaining rfl (Json.toText?_text s.fileSuffix),
    Json.get?_remaining rfl (Json.toList?_texts _ s.languages), Json.get?_remaining rfl (Json.toList?_texts _ s.files),
    Json.get?_remaining rfl (Json.toBool?_bool s.strict), Json.get?_remaining rfl (Json.toBool?_bool s.fatal),
    Json.get?_remaining rfl (Json.toBool?_bool s.color), Json.get?_remaining rfl (Json.toBool?_bool s.quiet),
    Json.get?_remaining rfl (Json.toBool?_bool s.verbose), Json.get?_remaining rfl (Json.toBool?_bool s.update),
    Json.get?_remaining rfl (Json.toBool?_bool s.create), Json.get?_remaining rfl (Json.toBool?_bool s.writeContent),
    Json.get?_remaining rfl (Json.toBool?_bool s.writeReference),
    Json.get?_remaining rfl (CheckName.toList?_identifiers _ s.enabledChecks),
    Json.get?_remaining rfl (CheckOptions.ofJson?_without _ s.checks hpattern hreplacement)]
  rfl

/-- Settings that are written and read again are the same settings, and if any fields are deleted in between, those
and no others have their defaults. -/
theorem omitted_fields_are_defaulted (s : Settings) :
    ofJson? s.toJson = some s ∧
    ∀ gone : Places,
      (∀ i, ∀ name ∈ ["regexp", "replace"],
        gone [.member "checks", .member "substitutions", .member "rules", .item i, .member (some name)] = false) →
      ofJson? (s.toJson.without gone) = some (s.resetAt gone) := by
  constructor
  · have hnothing := ofJson?_without (fun _ => false) s (fun _ => rfl) fun _ => rfl
    rwa [Json.without_nothing, resetAt_nothing] at hnothing
  · intro gone hkept
    exact ofJson?_without gone s (fun i => hkept i "regexp" (by simp)) fun i => hkept i "replace" (by simp)

/-- A field goes at the top, one of a section, a whole section and the flag of the second of two rules. -/
theorem omitted_fields_are_defaulted_at_every_depth :
    let rules : List SubstitutionRule := [⟨"a", "b", .fail⟩, ⟨"c", "d", .fail⟩]
    let checks : CheckOptions :=
      { brackets := ⟨['<'], ['>'], false, true⟩, quotationMarks := ⟨['x'], true⟩, substitutions := ⟨rules, true⟩,
        typesettingQuotationMarks := ⟨['«'], ['»'], false, true⟩ }
    let s : Settings := { separator := ':', color := false, enabledChecks := [.keyFormat, .brackets], checks }
    let gone : Places := fun place =>
      place ∈
        [[.member "separator"], [.member "checks", .member "quotation-marks"],
          [.member "checks", .member "typesetting-quotation-marks", .member "ignoreQuoted"],
          [.member "checks", .member "substitutions", .member "rules", .item 1, .member "flag"]]
    ofJson? (s.toJson.without gone) =
      some { s with
        separator := '='
        checks := { checks with
          quotationMarks := .standard
          typesettingQuotationMarks := ⟨['«'], ['»'], true, true⟩
          substitutions := ⟨[⟨"a", "b", .fail⟩, ⟨"c", "d", .suggest⟩], true⟩ } } := by
  intro rules checks s gone
  have hkept : ∀ i, ∀ name ∈ ["regexp", "replace"],
      gone [.member "checks", .member "substitutions", .member "rules", .item i, .member (some name)] = false := by
    intro i name hname
    have hflag : name ≠ "flag" := by
      rintro rfl
      exact absurd hname (by decide)
    simp [gone, hflag]
  exact ((omitted_fields_are_defaulted s).2 gone hkept).trans (by decide +kernel)

end Settings

end BundleCheck
