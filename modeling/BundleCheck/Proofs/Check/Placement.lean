import BundleCheck.Bundle.Basic
import BundleCheck.Proofs.Check.Inspection

/-!
# Where findings point

A finding without a position is about the options of a check, and then it is the only one, or about a key that
is missing. All others point into the file: at a line that the check reads, under the key of that line, and no
further than right behind what was inspected of it. They come in the order of the lines, and there is one on a
line at most, or one for either line break where white space before these is looked for.
-/

namespace BundleCheck

/-! ### Options -/

/-- How many findings a check can make on one line. -/
def CheckName.limit (name : CheckName) : Nat := if name = .whiteCharsBeforeLinefeed then 2 else 1

/-- Whether the options tell a check to read comments too. -/
def CheckOptions.readsComments (o : CheckOptions) : CheckName → Bool
  | .brackets => o.brackets.comments
  | .quotationMarks => o.quotationMarks.comments
  | .substitutions => o.substitutions.comments
  | .trailingWhiteChars => o.trailingWhiteChars.comments
  | .typesettingQuotationMarks => o.typesettingQuotationMarks.comments
  | .whiteCharsBeforeLinefeed => o.whiteCharsBeforeLinefeed.comments
  | _ => false

/-- What there is to say about the options of a check. -/
def CheckOptions.complaint? (o : CheckOptions) : CheckName → Option Finding
  | .brackets => Nesting.complaint? o.brackets
  | .quotationMarks => QuotationMarks.complaint? o.quotationMarks
  | .typesettingQuotationMarks => Nesting.complaint? o.typesettingQuotationMarks
  | _ => none

theorem Nesting.position_of_complaint? {o : PairOptions} {x : Finding} (h : complaint? o = some x) :
    x.position = none := by
  unfold complaint? at h
  split at h
  · exact Option.some.inj h ▸ rfl
  · split at h
    · exact Option.some.inj h ▸ rfl
    · cases h

theorem QuotationMarks.position_of_complaint? {o : QuotationOptions} {x : Finding} (h : complaint? o = some x) :
    x.position = none := by
  unfold complaint? at h
  split at h
  · exact Option.some.inj h ▸ rfl
  · cases h

namespace Check

def readsComments : Check → Bool
  | brackets o | typesettingQuotationMarks o => o.comments
  | quotationMarks o => o.comments
  | substitutions _ comments => comments
  | trailingWhiteChars o | whiteCharsBeforeLinefeed o => o.comments
  | _ => false

def complaint? : Check → Option Finding
  | brackets o | typesettingQuotationMarks o => Nesting.complaint? o
  | quotationMarks o => QuotationMarks.complaint? o
  | _ => none

variable {name : CheckName} {o : CheckOptions} {c : Check}

theorem of_build (h : build name o = .ok c) :
    c.name = name ∧ c.readsComments = o.readsComments name ∧ c.complaint? = o.complaint? name := by
  cases name with
  | keyFormat =>
    cases hpattern : Pattern.Expression.ofText o.keyFormat.pattern with
    | error fault => simp [build, hpattern, bind, Except.bind] at h
    | ok pattern =>
      simp only [build, hpattern, bind, Except.bind, Except.ok.injEq] at h
      exact h ▸ ⟨rfl, rfl, rfl⟩
  | substitutions =>
    cases hrules : o.substitutions.rules.mapM Substitutions.Rule.ofWritten with
    | error fault => simp [build, hrules, bind, Except.bind] at h
    | ok rules =>
      simp only [build, hrules, bind, Except.bind, Except.ok.injEq] at h
      exact h ▸ ⟨rfl, rfl, rfl⟩
  | _ => exact Except.ok.inj h ▸ ⟨rfl, rfl, rfl⟩

end Check

/-! ### What a check can find -/

/-- What a check says about its options has no position, and what it says about a line points into it. -/
def Scope.Fits (c : Check) : Scope → Prop
  | options complaint => c.complaint? = some complaint ∧ complaint.position = none ∧
      c.name ∈ [.brackets, .typesettingQuotationMarks, .quotationMarks]
  | lines inspect => ∀ reference, Inspects c.readsComments c.name.limit (inspect reference)
  | keys _ => c.name = .missingTranslations

theorem Scope.fits_linesUnless {c : Check} {complaint? : Option Finding} {inspect : Nat → Line → List Finding}
    (hcomplaint : c.complaint? = complaint?) (hposition : ∀ x, complaint? = some x → x.position = none)
    (hname : c.name ∈ [.brackets, .typesettingQuotationMarks, .quotationMarks])
    (hinspect : Inspects c.readsComments c.name.limit inspect) : (linesUnless complaint? inspect).Fits c := by
  cases complaint? with
  | some x => exact ⟨hcomplaint, hposition x rfl, hname⟩
  | none => exact fun _ => hinspect

theorem Check.scope_fits (c : Check) : c.scope.Fits c := by
  cases c with
  | brackets o | typesettingQuotationMarks o =>
    exact Scope.fits_linesUnless rfl (fun _ => Nesting.position_of_complaint?) (by simp [name]) (Nesting.inspects o)
  | quotationMarks o =>
    exact Scope.fits_linesUnless rfl (fun _ => QuotationMarks.position_of_complaint?) (by simp [name])
      (QuotationMarks.inspects o)
  | missingTranslations strict => rfl
  | danglingKeys => exact fun _ => DanglingKeys.inspects _
  | emptyTranslations => exact fun _ => Agreement.inspects_of_column_eq_none EmptyTranslations.column_of_remark? _
  | formattingValues => exact fun _ => Agreement.inspects (fun _ _ _ => FormattingValues.column_of_remark?) _
  | punctuation o => exact fun _ => Agreement.inspects_of_column_eq_none Punctuation.column_of_remark? _
  | startsWithTheSameCase o => exact fun _ => Agreement.inspects_of_column_eq_none SameCase.column_of_remark? _
  | keyFormat written pattern => exact fun _ => KeyFormat.inspects written pattern
  | substitutions rules comments => exact fun _ => Substitutions.inspects rules comments
  | trailingWhiteChars o => exact fun _ => TrailingWhiteSpace.inspects o
  | whiteCharsBeforeLinefeed o => exact fun _ => WhiteSpaceBeforeBreak.inspects o

/-! ### Findings with and without a position -/

theorem Line.of_inspected? {line : Line} {comments : Bool} {value : String}
    (h : line.inspected? comments = some value) :
    line.content? = some value ∧ line ≠ .blank ∧ ∀ c, line = .comment c → comments = true := by
  cases line with
  | entry e => exact ⟨h, nofun, nofun⟩
  | comment c =>
    rw [inspected?] at h
    split at h
    · rename_i hcomments
      exact ⟨h, nofun, fun _ _ => hcomments⟩
    · cases h
  | blank => cases h

namespace Scope

variable {c : Check} {scope : Scope} {translation reference : Content} {x : Finding}

theorem Fits.of_position_eq_none (h : scope.Fits c) (hx : x ∈ scope.findings translation reference)
    (hposition : x.position = none) :
    (c.name = .missingTranslations ∧ ∃ key ∈ reference.keys, x.key = some key) ∨
      (c.name ∈ [.brackets, .typesettingQuotationMarks, .quotationMarks] ∧ c.complaint? = some x ∧
        scope.findings translation reference = [x]) := by
  cases scope with
  | options complaint =>
    obtain ⟨hcomplaint, -, hname⟩ := h
    obtain rfl : x = complaint := List.mem_singleton.1 hx
    exact .inr ⟨hname, hcomplaint, rfl⟩
  | lines inspect =>
    obtain ⟨number, line, -, hline⟩ := Content.mem_inspect.1 hx
    have hpointing := (h reference).pointing number line x hline
    rw [Finding.line?, hposition] at hpointing
    cases hpointing
  | keys strict =>
    obtain ⟨key, hkey, rfl⟩ := List.mem_map.1 hx
    exact .inl ⟨h, key, (List.mem_filter.1 hkey).1, rfl⟩

theorem Fits.inspects (h : scope.Fits c) (reference : Content) :
    Inspects c.readsComments c.name.limit (scope.onLine reference) := by
  cases scope with
  | lines inspect => exact h reference
  | options complaint => exact ⟨fun _ _ _ hx => absurd hx List.not_mem_nil, fun _ _ => Nat.zero_le _⟩
  | keys strict => exact ⟨fun _ _ _ hx => absurd hx List.not_mem_nil, fun _ _ => Nat.zero_le _⟩

/-- Of all that is found, what is on a line is what is found there. -/
theorem Fits.filter_findings (h : scope.Fits c) (translation reference : Content) (number : Nat) :
    (scope.findings translation reference).filter (fun x => x.line? = some number) =
      (translation.line? number).elim [] (scope.onLine reference number) := by
  cases scope with
  | lines inspect => exact Content.filter_inspect (h reference).pointing translation number
  | options complaint =>
    obtain ⟨-, hposition, -⟩ := h
    cases translation.line? number <;> simp [findings, onLine, Finding.line?, hposition]
  | keys strict =>
    cases translation.line? number <;> simp [findings, onLine, MissingTranslations.findings, Finding.line?,
      Finding.warning]

theorem Fits.exists_line (h : scope.Fits c) (hx : x ∈ scope.findings translation reference) {p : Position}
    (hposition : x.position = some p) :
    ∃ line, translation.line? p.line = some line ∧ x ∈ scope.onLine reference p.line line := by
  have hmem : x ∈ (scope.findings translation reference).filter fun x => x.line? = some p.line := by
    rw [List.mem_filter]
    exact ⟨hx, by simp [Finding.line?, hposition]⟩
  rw [h.filter_findings] at hmem
  cases hline : translation.line? p.line with
  | none =>
    rw [hline] at hmem
    cases hmem
  | some line =>
    rw [hline] at hmem
    exact ⟨line, rfl, hmem⟩

theorem Fits.pairwise_findings (h : scope.Fits c) (translation reference : Content) :
    ((scope.findings translation reference).filterMap Finding.line?).Pairwise (· ≤ ·) := by
  cases scope with
  | lines inspect => exact Content.pairwise_inspect (h reference).pointing translation
  | options complaint =>
    obtain ⟨-, hposition, -⟩ := h
    simp [findings, Finding.line?, hposition]
  | keys strict =>
    have hnone : (findings translation reference (keys strict)).filterMap Finding.line? = [] := by
      rw [findings, MissingTranslations.findings, List.filterMap_map, List.filterMap_eq_nil_iff]
      exact fun _ _ => rfl
    rw [hnone]
    exact .nil

theorem Fits.length_filter_findings (h : scope.Fits c) (translation reference : Content) (number : Nat) :
    ((scope.findings translation reference).filter fun x => x.line? = some number).length ≤ c.name.limit := by
  rw [h.filter_findings]
  cases translation.line? number with
  | none => exact Nat.zero_le _
  | some line => exact (h.inspects reference).length_le number line

end Scope

namespace Check

/-- A finding without a position names a key of the reference that is missing, or it is what there is to say
about the options and the only one. Any other is at a line that is no blank one and a comment only if comments
are read, under the key of that line, and its column is no further than right behind what the line has for
checks to look at. Findings come in the order of the lines, and there is one on a line at most, except for white
space before line breaks, where there are two. A check that is built from options has its name, reads comments
where they say so, and has the same to say about them. -/
theorem findings_placed (c : Check) {translation : Content} {reference : Option Content} {found : Section}
    (hrun : c.run translation reference = .ok found) :
    (∀ x ∈ found.findings, x.position = none →
      (c.name = .missingTranslations ∧ ∃ r, reference = some r ∧ ∃ key ∈ r.keys, x.key = some key) ∨
        (c.name ∈ [.brackets, .typesettingQuotationMarks, .quotationMarks] ∧ c.complaint? = some x ∧
          found.findings = [x])) ∧
    (∀ x ∈ found.findings, ∀ p, x.position = some p → 1 ≤ p.line ∧ p.line ≤ translation.lines.length ∧
      ∃ line, translation.lines[p.line - 1]? = some line ∧ line ≠ .blank ∧
        (∀ comment, line = .comment comment → c.readsComments = true) ∧ x.key = line.key? ∧
        ∀ column, p.column = some column →
          ∃ value, line.content? = some value ∧ 1 ≤ column ∧ column ≤ value.length + 1) ∧
    (found.findings.filterMap Finding.line?).Pairwise (· ≤ ·) ∧
    (∀ number, (found.findings.filter fun x => x.line? = some number).length ≤
      if c.name = .whiteCharsBeforeLinefeed then 2 else 1) ∧
    ∀ (name : CheckName) (o : CheckOptions), build name o = .ok c →
      c.name = name ∧ c.readsComments = o.readsComments name ∧ c.complaint? = o.complaint? name := by
  obtain rfl := eq_found_of_run hrun
  have hfits := c.scope_fits
  refine ⟨?_, ?_, hfits.pairwise_findings _ _, hfits.length_filter_findings _ _, fun name o => of_build⟩
  · intro x hx hposition
    rcases hfits.of_position_eq_none hx hposition with ⟨hname, key, hkey, hfound⟩ | hother
    · cases reference with
      | some r => exact .inl ⟨hname, r, rfl, key, hkey, hfound⟩
      | none => cases hkey
    · exact .inr hother
  · intro x hx p hposition
    obtain ⟨line, hline, hfound⟩ := hfits.exists_line hx hposition
    obtain ⟨value, hvalue, hplace⟩ := (hfits.inspects _).pointsInto p.line line x hfound
    obtain ⟨hpos, hle⟩ := Content.le_length_of_line? hline
    obtain ⟨hcontent, hblank, hcomment⟩ := Line.of_inspected? hvalue
    refine ⟨hpos, hle, line, (Content.line?_eq_some_iff.1 hline).2, hblank, hcomment, hplace.key, ?_⟩
    exact fun column hcolumn => ⟨value, hcontent, hplace.column p hposition column hcolumn⟩

/-- A blank and a tab before the two line breaks of an entry, and a blank in a comment that is read too. -/
theorem findings_placed_white_space :
    let o : CheckOptions := { whiteCharsBeforeLinefeed := ⟨true⟩ }
    let translation := (Bundle.empty.read .standard "k = é \\n\t\\r\n\n# \\n").1.content
    let found : Section := ⟨"WhiteCharsBeforeLinefeed",
      [.warning (some (.atColumn 1 2)) (some "k") "SPACE found before \"\\n\".",
        .warning (some (.atColumn 1 5)) (some "k") "TAB found before \"\\r\".",
        .warning (some (.atColumn 3 2)) none "SPACE found before \"\\n\"."]⟩
    Check.build .whiteCharsBeforeLinefeed o = .ok (whiteCharsBeforeLinefeed ⟨true⟩) ∧
      (whiteCharsBeforeLinefeed ⟨true⟩).run translation none = .ok found ∧
      (found.findings.filterMap Finding.line?).Pairwise (· ≤ ·) ∧
      (found.findings.filter fun x => x.line? = some 1).length ≤ 2 ∧
      (whiteCharsBeforeLinefeed ⟨true⟩).readsComments = o.readsComments .whiteCharsBeforeLinefeed := by
  intro o translation found
  have hbuild : Check.build .whiteCharsBeforeLinefeed o = .ok (whiteCharsBeforeLinefeed ⟨true⟩) := rfl
  have hrun : (whiteCharsBeforeLinefeed ⟨true⟩).run translation none = .ok found := by decide +kernel
  obtain ⟨-, -, hsorted, hlimit, hoptions⟩ := findings_placed _ hrun
  exact ⟨hbuild, hrun, hsorted, hlimit 1, (hoptions _ o hbuild).2.1⟩

end Check

end BundleCheck
