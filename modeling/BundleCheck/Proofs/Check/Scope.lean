import BundleCheck.Check.Suite
import Mathlib.Data.List.Basic

/-!
# What a check looks at

Twelve of the thirteen checks go over the lines of a file, and what they find on a line depends on that line
and on the reference alone. Three of them object to options that make no sense, and look at nothing then. The
thirteenth compares the keys of two files. `Check.scope` tells these apart once, and `Check.run_eq` says what a
check answers in terms of it. What holds of all findings can then be shown of one line at a time.
-/

namespace BundleCheck

/-- The number of the line that a finding points at. -/
def Finding.line? (f : Finding) : Option Nat := f.position.map Position.line

/-! ### Going over the lines -/

namespace Content

/-- The line with the given number, counted from one. -/
def line? (d : Content) : Nat → Option Line
  | 0 => none
  | number + 1 => d.lines[number]?

@[simp] theorem line?_zero (d : Content) : d.line? 0 = none := rfl

theorem line?_eq_some_iff {d : Content} {number : Nat} {line : Line} :
    d.line? number = some line ↔ 1 ≤ number ∧ d.lines[number - 1]? = some line := by
  cases number with
  | zero => simp
  | succ number => simp [line?]

theorem le_length_of_line? {d : Content} {number : Nat} {line : Line} (h : d.line? number = some line) :
    1 ≤ number ∧ number ≤ d.lines.length := by
  obtain ⟨hpos, hline⟩ := line?_eq_some_iff.1 h
  obtain ⟨hlt, -⟩ := List.getElem?_eq_some_iff.1 hline
  omega

variable {d : Content} {f : Nat → Line → List Finding} {x : Finding} {number : Nat}

theorem mem_inspect : x ∈ d.inspect f ↔ ∃ number line, d.line? number = some line ∧ x ∈ f number line := by
  simp only [inspect, List.mem_flatMap, Prod.exists, List.mem_zipIdx_iff_le_and_getElem?_sub, line?_eq_some_iff]
  constructor
  · rintro ⟨line, number, h, hx⟩
    exact ⟨number, line, h, hx⟩
  · rintro ⟨number, line, h, hx⟩
    exact ⟨line, number, h, hx⟩

/-- What is found on a line points at it. -/
def Pointing (f : Nat → Line → List Finding) : Prop :=
  ∀ number line, ∀ x ∈ f number line, x.line? = some number

/-- What a pass over the lines finds on one of them is what it finds when it comes there. -/
theorem filter_inspect (hf : Pointing f) (d : Content) (number : Nat) :
    (d.inspect f).filter (fun x => x.line? = some number) = (d.line? number).elim [] (f number) := by
  -- The pass may begin with any number: lines before the one that is asked for add nothing.
  have hown : ∀ k line, (f k line).filter (fun x => x.line? = some number) =
      if k = number then f k line else [] := by
    intro k line
    split
    · rename_i hk
      rw [List.filter_eq_self]
      intro x hx
      simp [hf k line x hx, hk]
    · rename_i hk
      rw [List.filter_eq_nil_iff]
      intro x hx
      simp [hf k line x hx, hk]
  have hlines : ∀ (lines : List Line) (start : Nat),
      ((lines.zipIdx start).flatMap fun p => f p.2 p.1).filter (fun x => x.line? = some number) =
        if start ≤ number then (lines[number - start]?).elim [] (f number) else [] := by
    intro lines
    induction lines with
    | nil => simp
    | cons line rest ih =>
      intro start
      rw [List.zipIdx_cons, List.flatMap_cons, List.filter_append, hown, ih]
      rcases Nat.lt_trichotomy start number with hlt | rfl | hgt
      · obtain ⟨k, rfl⟩ : ∃ k, number = start + 1 + k := ⟨number - (start + 1), by omega⟩
        have hindex : start + 1 + k - start = k + 1 := by omega
        simp [hindex, show start ≠ start + 1 + k by omega, show start ≤ start + 1 + k by omega]
      · simp [show ¬ start + 1 ≤ start by omega]
      · simp [show start ≠ number by omega, show ¬ start ≤ number by omega, show ¬ start + 1 ≤ number by omega]
  refine (hlines d.lines 1).trans ?_
  cases number with
  | zero => simp
  | succ number => simp [line?]

/-- Findings come in the order of the lines. -/
theorem pairwise_inspect (hf : Pointing f) (d : Content) :
    ((d.inspect f).filterMap Finding.line?).Pairwise (· ≤ ·) := by
  have hnumbers : (d.lines.zipIdx 1).Pairwise fun a b => a.2 < b.2 := by
    rw [← List.pairwise_map, List.zipIdx_map_snd]
    exact List.pairwise_lt_range'
  have hsame : ∀ number line, ∀ x ∈ f number line, ∀ n ∈ x.line?, n = number := by
    intro number line x hx n hn
    rw [hf number line x hx] at hn
    exact (Option.some.inj hn).symm
  rw [List.pairwise_filterMap, inspect, List.pairwise_flatMap]
  constructor
  · rintro ⟨line, number⟩ -
    apply List.pairwise_of_forall_mem_list
    intro x hx y hy m hm n hn
    exact Nat.le_of_eq ((hsame number line x hx m hm).trans (hsame number line y hy n hn).symm)
  · refine hnumbers.imp ?_
    rintro ⟨line, number⟩ ⟨line', number'⟩ hlt x hx y hy m hm n hn
    rw [hsame number line x hx m hm, hsame number' line' y hy n hn]
    exact Nat.le_of_lt hlt

end Content

/-! ### Options that make no sense -/

namespace Nesting

/-- What there is to say about lists that do not pair up. -/
def complaint? (o : PairOptions) : Option Finding :=
  if o.opening.isEmpty || o.closing.isEmpty then some nothingConfigured
  else if o.opening.length ≠ o.closing.length then some (unevenLists o.opening.length o.closing.length)
  else none

theorem findings_eq (o : PairOptions) (d : Content) :
    findings o d = (complaint? o).elim (d.inspect (inspectLine o)) fun complaint => [complaint] := by
  unfold findings complaint?
  split
  · rfl
  · split <;> rfl

end Nesting

namespace QuotationMarks

/-- What there is to say about an empty list of marks. -/
def complaint? (o : QuotationOptions) : Option Finding :=
  if o.marks.isEmpty then some nothingConfigured else none

theorem findings_eq (o : QuotationOptions) (d : Content) :
    findings o d = (complaint? o).elim (d.inspect (inspectLine o)) fun complaint => [complaint] := by
  unfold findings complaint?
  split <;> rfl

end QuotationMarks

/-! ### Scopes -/

/-- What a check looks at. -/
inductive Scope where
  /-- Its options, with which something is wrong. -/
  | options (complaint : Finding)
  /-- Each line by itself, with the reference at hand. -/
  | lines (inspect : Content → Nat → Line → List Finding)
  /-- The keys of both files. -/
  | keys (strict : Bool)

namespace Scope

/-- All lines, unless there is something to say about the options. -/
def linesUnless (complaint : Option Finding) (inspect : Nat → Line → List Finding) : Scope :=
  complaint.elim (lines fun _ => inspect) options

def findings (translation reference : Content) : Scope → List Finding
  | options complaint => [complaint]
  | lines inspect => translation.inspect (inspect reference)
  | keys strict => MissingTranslations.findings strict translation reference

/-- What is found on one line, which is nothing where lines are not what is looked at. -/
def onLine (scope : Scope) (reference : Content) : Nat → Line → List Finding :=
  match scope with
  | lines inspect => inspect reference
  | options _ | keys _ => fun _ _ => []

theorem findings_linesUnless (complaint : Option Finding) (inspect : Nat → Line → List Finding)
    (translation reference : Content) :
    (linesUnless complaint inspect).findings translation reference =
      complaint.elim (translation.inspect inspect) fun complaint => [complaint] := by
  cases complaint <;> rfl

end Scope

namespace Check

def scope : Check → Scope
  | brackets o | typesettingQuotationMarks o => .linesUnless (Nesting.complaint? o) (Nesting.inspectLine o)
  | danglingKeys => .lines fun reference => DanglingKeys.inspectLine reference.contains
  | emptyTranslations => .lines fun reference => Agreement.inspectLine EmptyTranslations.remark? reference.value?
  | formattingValues => .lines fun reference => Agreement.inspectLine FormattingValues.remark? reference.value?
  | keyFormat written pattern => .lines fun _ => KeyFormat.inspectLine written pattern
  | missingTranslations strict => .keys strict
  | punctuation o => .lines fun reference => Agreement.inspectLine (Punctuation.remark? o) reference.value?
  | quotationMarks o => .linesUnless (QuotationMarks.complaint? o) (QuotationMarks.inspectLine o)
  | startsWithTheSameCase o => .lines fun reference => Agreement.inspectLine (SameCase.remark? o) reference.value?
  | substitutions rules comments => .lines fun _ => Substitutions.inspectLine rules comments
  | trailingWhiteChars o => .lines fun _ => TrailingWhiteSpace.inspectLine o
  | whiteCharsBeforeLinefeed o => .lines fun _ => WhiteSpaceBeforeBreak.inspectLine o

theorem isSingle_iff (c : Check) :
    c.isSingle = true ↔ c.name ∈ [.brackets, .keyFormat, .quotationMarks, .substitutions, .trailingWhiteChars,
      .typesettingQuotationMarks, .whiteCharsBeforeLinefeed] := by
  cases c <;> simp [isSingle, procedure, name]

/-- What the check finds where it applies. -/
def found (c : Check) (translation : Content) (reference : Option Content) : Section :=
  ⟨c.name.label, c.scope.findings translation (reference.getD .empty)⟩

/-- A check answers with a section, unless it lacks a reference. -/
theorem run_eq (c : Check) (translation : Content) (reference : Option Content) :
    c.run translation reference =
      if reference.isSome || c.isSingle then .ok (c.found translation reference)
      else .error .missingReference := by
  cases c with
  | brackets o | typesettingQuotationMarks o =>
    simp [run, procedure, isSingle, found, scope, Scope.findings_linesUnless, Nesting.findings_eq]
  | quotationMarks o =>
    simp [run, procedure, isSingle, found, scope, Scope.findings_linesUnless, QuotationMarks.findings_eq]
  | keyFormat | substitutions | trailingWhiteChars | whiteCharsBeforeLinefeed =>
    simp [run, procedure, isSingle, found, scope, Scope.findings, KeyFormat.findings, Substitutions.findings,
      TrailingWhiteSpace.findings, WhiteSpaceBeforeBreak.findings]
  | danglingKeys | emptyTranslations | formattingValues | missingTranslations | punctuation
  | startsWithTheSameCase => cases reference <;> rfl

variable {c : Check} {translation : Content} {reference : Option Content} {answer : Section}

theorem run_of_applies (h : (reference.isSome || c.isSingle) = true) (translation : Content) :
    c.run translation reference = .ok (c.found translation reference) := by
  rw [run_eq, if_pos h]

theorem eq_found_of_run (h : c.run translation reference = .ok answer) : answer = c.found translation reference := by
  rw [run_eq] at h
  split at h
  · exact (Except.ok.inj h).symm
  · cases h

end Check

end BundleCheck
