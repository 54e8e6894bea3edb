import BundleCheck.Proofs.Bundle.RepeatedKeys
import BundleCheck.Proofs.Check.Placement

/-!
# Findings and the lines of a file

Checks count the lines of the content, and the reading counts the lines of the file. So a finding names a line
that comes too early, by as many lines as repeat a key before the one that it is about. The numbers of these are
in the report beside it, and a finding is on the line that it names if and only if all of them are later.
-/

namespace BundleCheck

/-! ### The lines of a text -/

/-- The line of the text with the given number, counted from one, as it is read by itself. -/
def Settings.lineAt? (s : Settings) (text : String) : Nat → Option Line
  | 0 => none
  | number + 1 => (Text.lines text.toList)[number]?.bind fun line =>
    (ReadLine.ofText s.deferralMarker line).toOption.map ReadLine.line

/-- The key of that line, if it is an entry. -/
def Settings.keyAt? (s : Settings) (text : String) (number : Nat) : Option String :=
  (s.lineAt? text number).bind Line.key?

theorem ReadsAs.getElem? {marker : String} {texts : List (List Char)} {lines : List Line}
    (h : ReadsAs marker texts lines) (i : Nat) :
    (texts[i]?.bind fun text => (ReadLine.ofText marker text).toOption.map ReadLine.line) = lines[i]? := by
  induction h generalizing i with
  | nil => rfl
  | @cons text line texts lines hline _ ih =>
    obtain ⟨l, hl, rfl⟩ := hline
    cases i with
    | zero => simp [hl, Except.toOption]
    | succ i => simpa using ih i

/-! ### Numbers in a report -/

/-- The numbers of the lines at which the report has findings under the label. -/
def Report.linesOf (r : Report) (label : String) : List Nat :=
  (r.sections.filter fun found => found.label = label).flatMap fun found => found.findings.filterMap Finding.line?

theorem Report.linesOf_empty_add (label : String) (findings : List Finding) :
    (Report.empty.add ⟨label, findings⟩).linesOf label = findings.filterMap Finding.line? := by
  rw [Report.empty_add, linesOf]
  split
  · rename_i hnone
    rw [show findings = [] from hnone]
    rfl
  · simp

/-! ### Reading a text to its end -/

namespace Settings

variable {s : Settings} {text : String} {lines : List Line} (hlineAt : ∀ i, s.lineAt? text (i + 1) = lines[i]?)

include hlineAt

theorem keyAt?_succ (i : Nat) : s.keyAt? text (i + 1) = lines[i]?.bind Line.key? := by
  rw [keyAt?, hlineAt]

theorem mem_repeated_iff {number : Nat} : number ∈ (numbered true [] 1 lines).map Prod.fst ↔
    ∃ key, s.keyAt? text number = some key ∧ ∃ first, first < number ∧ s.keyAt? text first = some key := by
  rw [mem_map_fst_numbered]
  constructor
  · intro h
    obtain ⟨i, rfl, key, hkey, j, hlt, hfirst⟩ := h
    rw [Nat.add_comm, keyAt?_succ hlineAt]
    exact ⟨key, hkey, j + 1, Nat.succ_lt_succ hlt, by rwa [keyAt?_succ hlineAt]⟩
  · intro h
    obtain ⟨key, hkey, first, hlt, hfirst⟩ := h
    cases number with
    | zero => cases hlt
    | succ i =>
      cases first with
      | zero => cases hfirst
      | succ j =>
        rw [keyAt?_succ hlineAt] at hkey hfirst
        exact ⟨i, Nat.add_comm i 1, key, hkey, j, Nat.lt_of_succ_lt_succ hlt, hfirst⟩

/-- The line of the text that a line of the content has been read from. -/
theorem exists_source {d : Content} (hkept : d.lines = (numbered false [] 1 lines).map Prod.snd) {number : Nat}
    {line : Line} (hline : d.line? number = some line) :
    ∃ source, s.lineAt? text source = some line ∧
      source = number + (numbered true [] 1 lines).countP (fun p => p.1 < source) ∧
      (source = number ↔ ∀ p ∈ numbered true [] 1 lines, number < p.1) ∧
      (line.key?.isSome = true → (s.lineAt? text number = some line ↔ source = number)) := by
  obtain ⟨hpos, hget⟩ := Content.line?_eq_some_iff.1 hline
  rw [hkept, List.getElem?_map, Option.map_eq_some_iff] at hget
  obtain ⟨⟨source, own⟩, hplace, rfl⟩ := hget
  obtain ⟨i, rfl, hsource, -⟩ := mem_numbered.1 (List.mem_of_getElem? hplace)
  have hnumber : 1 + (number - 1) = number := by omega
  have hcount := number_of_getElem?_numbered hplace
  have hsame := number_eq_iff_forall_lt hplace
  have hunique := getElem?_eq_iff_number_eq hplace
  rw [hnumber] at hcount hsame hunique
  refine ⟨1 + i, ?_, hcount, hsame, ?_⟩
  · rw [Nat.add_comm, hlineAt, hsource]
  · intro hentry
    rw [← hunique hentry, ← hlineAt, Nat.sub_add_cancel hpos]

end Settings

namespace Bundle

variable {s : Settings} {b : Bundle} {text : String}

theorem exists_lines_of_read (hread : (b.read s text).2 = none) :
    ∃ lines : List Line, (∀ i, s.lineAt? text (i + 1) = lines[i]?) ∧
      (b.read s text).1.content.lines = (numbered false [] 1 lines).map Prod.snd ∧
      ∃ repeated, (b.read s text).1.report = Report.empty.add ⟨Reading.repeatedKeysLabel, repeated⟩ ∧
        repeated.map Reading.place = (numbered true [] 1 lines).map fun p => (some (.onLine p.1), p.2.key?) := by
  obtain ⟨lines, r, hlines, h, hcontent, hreport⟩ := exists_accounts_of_read hread
  exact ⟨lines, fun i => hlines.getElem? i, by rw [hcontent, h.kept], r.repeated, hreport, h.map_place⟩

/-- A text is read to its end. The findings of the reading are then at the lines whose key an earlier line has,
in their order, and name this key. A finding of a check has been made on the line of the content that it names,
and that is a line of the text which comes later by as many lines as the reading has reported before it. So the
two have the same number if and only if all of those that are reported come after it, and if the finding is about
an entry it is only then that the line of the text with its number is the one that it is about. -/
theorem line_of_finding (hread : (b.read s text).2 = none) :
    let after := (b.read s text).1
    let repeated := after.report.linesOf Reading.repeatedKeysLabel
    (∀ number, number ∈ repeated ↔
      ∃ key, s.keyAt? text number = some key ∧ ∃ first, first < number ∧ s.keyAt? text first = some key) ∧
    repeated.Pairwise (· < ·) ∧
    (∀ found ∈ after.report.sections, ∀ x ∈ found.findings, ∃ number key,
      x.position = some (.onLine number) ∧ x.key = some key ∧ s.keyAt? text number = some key) ∧
    ∀ (c : Check) (reference : Option Content) (found : Section), c.run after.content reference = .ok found →
      ∀ x ∈ found.findings, ∀ p, x.position = some p →
        ∃ line source, after.content.line? p.line = some line ∧
          x ∈ c.scope.onLine (reference.getD .empty) p.line line ∧ x.key = line.key? ∧
          s.lineAt? text source = some line ∧
          source = p.line + repeated.countP (· < source) ∧
          (source = p.line ↔ ∀ number ∈ repeated, p.line < number) ∧
          (x.key.isSome = true → (s.lineAt? text p.line = some line ↔ source = p.line)) := by
  intro after repeated
  obtain ⟨lines, hlineAt, hkept, findings, hreport, hplaces⟩ := exists_lines_of_read hread
  have hrepeated : repeated = (numbered true [] 1 lines).map Prod.fst := by
    have hnumbers := congrArg (List.filterMap fun place => place.1.map Position.line) hplaces
    rw [List.filterMap_map, List.filterMap_map] at hnumbers
    show Report.linesOf _ _ = _
    rw [hreport, Report.linesOf_empty_add, ← List.filterMap_eq_map]
    exact hnumbers
  refine ⟨?_, ?_, ?_, ?_⟩
  · intro number
    rw [hrepeated]
    exact Settings.mem_repeated_iff hlineAt
  · rw [hrepeated, List.pairwise_map]
    exact pairwise_numbered true [] 1 lines
  · intro found hfound x hx
    obtain rfl : found = ⟨Reading.repeatedKeysLabel, findings⟩ := by
      rw [hreport, Report.empty_add] at hfound
      split at hfound
      · cases hfound
      · exact List.mem_singleton.1 hfound
    have hmem := hplaces ▸ List.mem_map_of_mem hx
    obtain ⟨⟨number, line⟩, hp, hplace⟩ := List.mem_map.1 hmem
    obtain ⟨i, rfl, hline, hrepeats⟩ := mem_numbered.1 hp
    obtain ⟨key, hkey, -⟩ := Line.repeats_eq_true_iff.1 hrepeats
    obtain ⟨hposition, hown⟩ := Prod.mk.inj hplace
    refine ⟨1 + i, key, hposition.symm, hown.symm.trans hkey, ?_⟩
    rw [Nat.add_comm, Settings.keyAt?_succ hlineAt, hline, Option.bind_some, hkey]
  · intro c reference found hrun x hx p hposition
    obtain rfl := Check.eq_found_of_run hrun
    obtain ⟨line, hline, hfound⟩ := c.scope_fits.exists_line hx hposition
    obtain ⟨value, -, hplace⟩ := (c.scope_fits.inspects _).pointsInto p.line line x hfound
    obtain ⟨source, hsource, hcount, hsame, hunique⟩ := Settings.exists_source hlineAt hkept hline
    refine ⟨line, source, hline, hfound, hplace.key, hsource, ?_, ?_, ?_⟩
    · rw [hrepeated, List.countP_map]
      exact hcount
    · rw [hrepeated, List.forall_mem_map]
      exact hsame
    · rw [hplace.key]
      exact hunique

/-- The finding before the key that comes again is on its line, and the one behind it is on the line before. -/
theorem line_of_finding_around_repeated_key :
    let s : Settings := .standard
    let text := "c = [\na = 1\na = 2\nb = ("
    let after := (Bundle.empty.read s text).1
    let brackets : Check := .brackets .brackets
    let found : Section := ⟨"Brackets",
      [.error (some (.atColumn 1 1)) (some "c") "No closing character for \"[\".",
        .error (some (.atColumn 3 1)) (some "b") "No closing character for \"(\"."]⟩
    (Bundle.empty.read s text).2 = none ∧ brackets.run after.content none = .ok found ∧
      after.report.linesOf Reading.repeatedKeysLabel = [3] ∧
      (∃ line, after.content.line? 1 = some line ∧ s.lineAt? text 1 = some line) ∧
      ∃ line, after.content.line? 3 = some line ∧ line.key? = some "b" ∧ s.lineAt? text 3 ≠ some line ∧
        s.lineAt? text 4 = some line := by
  intro s text after brackets found
  have hread : (Bundle.empty.read s text).2 = none := by decide +kernel
  have hrun : brackets.run after.content none = .ok found := by decide +kernel
  have hrepeated : after.report.linesOf Reading.repeatedKeysLabel = [3] := by decide +kernel
  obtain ⟨-, -, -, hfindings⟩ := line_of_finding hread
  have hsource := hfindings brackets none found hrun
  refine ⟨hread, hrun, hrepeated, ?_, ?_⟩
  · obtain ⟨line, source, hline, -, -, hown, -, hsame, -⟩ := hsource _ List.mem_cons_self _ rfl
    have hnumber : source = 1 := hsame.2 (by rw [hrepeated]; decide)
    exact ⟨line, hline, hnumber ▸ hown⟩
  · obtain ⟨line, source, hline, -, hkey, hown, hcount, hsame, hunique⟩ :=
      hsource _ (List.mem_cons_of_mem _ List.mem_cons_self) _ rfl
    have hlater : source ≠ 3 := by
      intro heq
      have hlt := hsame.1 heq
      rw [hrepeated] at hlt
      exact absurd (hlt 3 List.mem_cons_self) (by decide)
    have hnumber : source = 4 := by
      rw [hrepeated] at hcount
      have hle : [3].countP (· < source) ≤ 1 := List.countP_le_length
      have hge : source = 3 + [3].countP (· < source) := hcount
      omega
    refine ⟨line, hline, hkey.symm, ?_, hnumber ▸ hown⟩
    exact fun hsecond => hlater ((hunique rfl).1 hsecond)

/-- A key comes again on the second line, and the finding about the third one names the second too. -/
theorem finding_behind_repeated_key :
    let s : Settings := .standard
    let text := "a = 1\na = 2\nb = ("
    let after := (Bundle.empty.read s text).1
    let x : Finding := .error (some (.atColumn 2 1)) (some "b") "No closing character for \"(\"."
    (Bundle.empty.read s text).2 = none ∧
      Check.build .brackets s.effectiveChecks = .ok (.brackets .brackets) ∧
      (Check.brackets .brackets).run after.content none = .ok ⟨"Brackets", [x]⟩ ∧
      after.report = ⟨[⟨"Duplicated keys",
        [.error (some (.onLine 2)) (some "a") "Duplicated key, first occurrence at line 1."]⟩]⟩ ∧
      s.keyAt? text 2 = some "a" ∧ s.keyAt? text 3 = some "b" ∧
      ¬ ∃ line, s.lineAt? text 2 = some line ∧ line.key? = x.key := by
  intro s text after x
  have hsecond : s.keyAt? text 2 = some "a" := by decide +kernel
  refine ⟨by decide +kernel, rfl, by decide +kernel, by decide +kernel, hsecond, by decide +kernel, ?_⟩
  intro h
  obtain ⟨line, hline, hkey⟩ := h
  rw [Settings.keyAt?, hline, Option.bind_some, hkey] at hsecond
  exact absurd (Option.some.inj hsecond) (by decide)

end Bundle

end BundleCheck
