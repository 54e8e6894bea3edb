import BundleCheck.Bundle.Basic
import BundleCheck.Proofs.Check.Scope
import Mathlib.Data.List.Forall2

/-!
# Suites and their parts

Checking with a suite cannot fail, since a check that lacks a reference is left out. It adds the sections of the
other checks to the report, as far as these hold something, and what a check contributes does not depend on the
checks beside it. So suites can be run one after the other, and one more check adds its own section at most.
-/

namespace BundleCheck

/-! ### What a suite adds to a report -/

theorem Report.foldl_add (sections : List Section) (r : Report) :
    sections.foldl add r = ⟨r.sections ++ sections.filter fun found => !found.isEmpty⟩ := by
  induction sections generalizing r with
  | nil => simp
  | cons found rest ih =>
    rw [List.foldl_cons, ih, add]
    cases hempty : found.isEmpty with
    | true => simp [hempty]
    | false => simp [hempty]

namespace Suite

/-- The sections that a suite adds to the report on a file. -/
def contribution (suite : Suite) (translation : Content) (reference : Option Content) : List Section :=
  ((suite.applicable reference.isSome).map fun c => c.found translation reference).filter fun found =>
    !found.isEmpty

theorem contribution_append (l₁ l₂ : Suite) (translation : Content) (reference : Option Content) :
    contribution (l₁ ++ l₂) translation reference =
      contribution l₁ translation reference ++ contribution l₂ translation reference := by
  simp only [contribution, applicable, List.filter_append, List.map_append]

theorem contribution_cons (c : Check) (suite : Suite) (translation : Content) (reference : Option Content) :
    contribution (c :: suite) translation reference =
      contribution [c] translation reference ++ contribution suite translation reference :=
  contribution_append [c] suite translation reference

/-- One check adds nothing, or the section that it answers with. -/
theorem contribution_singleton (c : Check) (translation : Content) (reference : Option Content) :
    contribution [c] translation reference = [] ∨
      ∃ found, c.run translation reference = .ok found ∧ contribution [c] translation reference = [found] := by
  cases happlies : reference.isSome || c.isSingle with
  | false => exact .inl (by simp [contribution, applicable, happlies])
  | true =>
    cases hempty : (c.found translation reference).isEmpty with
    | true => exact .inl (by simp [contribution, applicable, happlies, hempty])
    | false =>
      refine .inr ⟨_, Check.run_of_applies happlies translation, ?_⟩
      simp [contribution, applicable, happlies, hempty]

variable (suite : Suite) (translation : Content) (reference : Option Content)

theorem forall₂_run :
    List.Forall₂ (fun c found => c.run translation reference = .ok found) (suite.applicable reference.isSome)
      ((suite.applicable reference.isSome).map fun c => c.found translation reference) := by
  rw [List.forall₂_map_right_iff, List.forall₂_same]
  intro c hc
  exact Check.run_of_applies (List.mem_filter.1 hc).2 translation

theorem sections_eq :
    suite.sections translation reference =
      .ok ((suite.applicable reference.isSome).map fun c => c.found translation reference) := by
  have hrun := forall₂_run suite translation reference
  rw [sections]
  generalize suite.applicable reference.isSome = checks at hrun
  induction checks with
  | nil => rfl
  | cons c rest ih =>
    rw [List.map_cons, List.forall₂_cons] at hrun
    rw [List.mapM_cons, hrun.1, ih hrun.2]
    rfl

end Suite

theorem Bundle.check_eq (b : Bundle) (reference : Option Bundle) (suite : Suite) :
    b.check reference suite =
      .ok { b with report :=
        ⟨b.report.sections ++ suite.contribution b.content (reference.map Bundle.content)⟩ } := by
  rw [check, Suite.sections_eq, Suite.contribution, ← Report.foldl_add]
  rfl

theorem Bundle.check_append (b : Bundle) (reference : Option Bundle) (l₁ l₂ : Suite) :
    b.check reference (l₁ ++ l₂) = (b.check reference l₁).bind fun b' => b'.check reference l₂ := by
  rw [check_eq, check_eq, Except.bind, check_eq, Suite.contribution_append, List.append_assoc]

/-! ### What settings enable -/

namespace CheckName

theorem mem_all (name : CheckName) : name ∈ all := by
  cases name <;> decide

theorem nodup_all : all.Nodup := by decide

variable {names names' : List CheckName} {name : CheckName}

theorem filter_contains_congr (h : ∀ other ∈ all, other ∈ names' ↔ other ∈ names) :
    all.filter names'.contains = all.filter names.contains := by
  apply List.filter_congr
  intro other hother
  rw [Bool.eq_iff_iff, List.contains_iff_mem, List.contains_iff_mem]
  exact h other hother

/-- One more name takes its place among the others. -/
theorem exists_filter_insert (hnames : ∀ other, other ∈ names' ↔ other = name ∨ other ∈ names)
    (hfresh : name ∉ names) :
    ∃ front back, all.filter names.contains = front ++ back ∧
      all.filter names'.contains = front ++ name :: back := by
  obtain ⟨front, back, hall⟩ := List.append_of_mem (mem_all name)
  have hnodup : (front ++ name :: back).Nodup := hall ▸ nodup_all
  have hothers : ∀ part : List CheckName, name ∉ part → part.filter names'.contains = part.filter names.contains := by
    intro part hpart
    apply List.filter_congr
    intro other hother
    have hne : other ≠ name := fun heq => hpart (heq ▸ hother)
    rw [Bool.eq_iff_iff, List.contains_iff_mem, List.contains_iff_mem, hnames, or_iff_right hne]
  have hfront : name ∉ front := fun hmem => (List.nodup_append.1 hnodup).2.2 _ hmem _ List.mem_cons_self rfl
  have hback : name ∉ back := (List.nodup_cons.1 (List.nodup_append.1 hnodup).2.1).1
  refine ⟨front.filter names.contains, back.filter names.contains, ?_, ?_⟩
  · rw [hall, List.filter_append, List.filter_cons_of_neg (by simpa using hfresh)]
  · rw [hall, List.filter_append, List.filter_cons_of_pos (by simpa using (hnames name).2 (.inl rfl)),
      hothers front hfront, hothers back hback]

end CheckName

namespace Settings

variable {s : Settings} {names : List CheckName}

theorem suite_congr (h : ∀ name, name ∈ names ↔ name ∈ s.enabledChecks) :
    { s with enabledChecks := names }.suite = s.suite := by
  rw [suite, suite, CheckName.filter_contains_congr fun name _ => h name]
  rfl

theorem suite_insert {name : CheckName} (hnames : ∀ other, other ∈ names ↔ other = name ∨ other ∈ s.enabledChecks)
    (hfresh : name ∉ s.enabledChecks) {c : Check} (hbuild : Check.build name s.effectiveChecks = .ok c)
    {suite : Suite} (hsuite : s.suite = .ok suite) :
    ∃ front back : Suite, suite = front ++ back ∧
      { s with enabledChecks := names }.suite = .ok (front ++ c :: back) := by
  obtain ⟨front, back, hold, hnew⟩ := CheckName.exists_filter_insert hnames hfresh
  rw [Settings.suite, hold, List.mapM_append] at hsuite
  cases hfront : front.mapM (Check.build · s.effectiveChecks) with
  | error fault => simp [hfront, bind, Except.bind] at hsuite
  | ok frontChecks =>
    cases hback : back.mapM (Check.build · s.effectiveChecks) with
    | error fault => simp [hfront, hback, bind, Except.bind] at hsuite
    | ok backChecks =>
      rw [hfront, hback] at hsuite
      refine ⟨frontChecks, backChecks, (Except.ok.inj hsuite).symm, ?_⟩
      have hoptions : { s with enabledChecks := names }.effectiveChecks = s.effectiveChecks := rfl
      rw [Settings.suite, hnew, hoptions, List.mapM_append, List.mapM_cons, hfront, hbuild, hback]
      rfl

/-- With one more name enabled the reports are the same but for what its check adds in one place. -/
theorem check_insert {name : CheckName} (hnames : ∀ other, other ∈ names ↔ other = name ∨ other ∈ s.enabledChecks)
    {c : Check} (hbuild : Check.build name s.effectiveChecks = .ok c) {suite : Suite} (hsuite : s.suite = .ok suite) :
    ∃ suite', { s with enabledChecks := names }.suite = .ok suite' ∧
      ∀ (b : Bundle) (reference : Option Bundle), ∃ front own back : List Section,
        b.check reference suite = .ok { b with report := ⟨b.report.sections ++ (front ++ back)⟩ } ∧
        b.check reference suite' = .ok { b with report := ⟨b.report.sections ++ (front ++ own ++ back)⟩ } ∧
        (own = [] ∨ ∃ found, c.run b.content (reference.map Bundle.content) = .ok found ∧ own = [found]) := by
  by_cases henabled : name ∈ s.enabledChecks
  · refine ⟨suite, ?_, ?_⟩
    · rw [suite_congr, hsuite]
      intro other
      rw [hnames, or_iff_right_of_imp]
      intro heq
      exact heq ▸ henabled
    · intro b reference
      refine ⟨suite.contribution b.content (reference.map Bundle.content), [], [], ?_, ?_, .inl rfl⟩
      all_goals simp [Bundle.check_eq]
  · obtain ⟨front, back, rfl, hnew⟩ := suite_insert hnames henabled hbuild hsuite
    refine ⟨_, hnew, ?_⟩
    intro b reference
    refine ⟨Suite.contribution front b.content (reference.map Bundle.content),
      Suite.contribution [c] b.content (reference.map Bundle.content),
      Suite.contribution back b.content (reference.map Bundle.content), ?_, ?_, ?_⟩
    · rw [Bundle.check_eq, Suite.contribution_append]
    · rw [Bundle.check_eq, Suite.contribution_append, Suite.contribution_cons, List.append_assoc]
    · exact Suite.contribution_singleton c b.content (reference.map Bundle.content)

end Settings

/-! ### Checking with suites -/

namespace Bundle

/-- Checking succeeds, whatever the suite and with a reference or without. It adds to the report the sections
that hold something, of all checks or of those that need no reference, in their order, and leaves everything else
as it is. Two suites can be run one after the other. How often and in which order settings name a check makes no
difference to the suite, and one more name adds the section of its check at most. -/
theorem check_composes :
    (∀ (b : Bundle) (reference : Option Bundle) (suite : Suite), ∃ sections : List Section,
      List.Forall₂ (fun c found => c.run b.content (reference.map Bundle.content) = .ok found)
        (suite.filter fun c => reference.isSome || c.isSingle) sections ∧
      b.check reference suite =
        .ok { b with report := ⟨b.report.sections ++ sections.filter fun found => !found.isEmpty⟩ }) ∧
    (∀ (b : Bundle) (reference : Option Bundle) (l₁ l₂ : Suite),
      b.check reference (l₁ ++ l₂) = (b.check reference l₁).bind fun b' => b'.check reference l₂) ∧
    (∀ (s : Settings) (names : List CheckName), (∀ name, name ∈ names ↔ name ∈ s.enabledChecks) →
      { s with enabledChecks := names }.suite = s.suite) ∧
    ∀ (s : Settings) (names : List CheckName) (name : CheckName) (c : Check) (suite : Suite),
      (∀ other, other ∈ names ↔ other = name ∨ other ∈ s.enabledChecks) →
      Check.build name s.effectiveChecks = .ok c → s.suite = .ok suite →
      ∃ suite', { s with enabledChecks := names }.suite = .ok suite' ∧
        ∀ (b : Bundle) (reference : Option Bundle), ∃ front own back : List Section,
          b.check reference suite = .ok { b with report := ⟨b.report.sections ++ (front ++ back)⟩ } ∧
          b.check reference suite' = .ok { b with report := ⟨b.report.sections ++ (front ++ own ++ back)⟩ } ∧
          (own = [] ∨
            ∃ found, c.run b.content (reference.map Bundle.content) = .ok found ∧ own = [found]) := by
  refine ⟨?_, check_append, fun s names h => Settings.suite_congr h, ?_⟩
  · intro b reference suite
    have hrun := suite.forall₂_run b.content (reference.map Bundle.content)
    rw [Suite.applicable, Option.isSome_map] at hrun
    refine ⟨_, hrun, ?_⟩
    rw [check_eq, Suite.contribution, Suite.applicable, Option.isSome_map]
  · intro s names name c suite hnames hbuild hsuite
    exact Settings.check_insert hnames hbuild hsuite

/-- The check for empty translations takes its place between two others, one of which is named twice. -/
theorem check_composes_one_more :
    let s : Settings := { enabledChecks := [.formattingValues, .brackets, .brackets] }
    let suite : Suite := [.brackets .brackets, .formattingValues]
    let b := (Bundle.empty.read .standard "a = (\nb =").1
    let reference := (Bundle.empty.read .standard "a = %s\nb = x").1
    s.suite = .ok suite ∧
    (∃ suite', { s with enabledChecks := [.brackets, .formattingValues, .emptyTranslations] }.suite = .ok suite' ∧
      ∃ front own back : List Section,
        b.check (some reference) suite = .ok { b with report := ⟨b.report.sections ++ (front ++ back)⟩ } ∧
        b.check (some reference) suite' =
          .ok { b with report := ⟨b.report.sections ++ (front ++ own ++ back)⟩ }) ∧
    b.check (some reference) [.brackets .brackets, .emptyTranslations, .formattingValues] =
      .ok { b with report := ⟨[
        ⟨"Brackets", [.error (some (.atColumn 1 1)) (some "a") "No closing character for \"(\"."]⟩,
        ⟨"EmptyTranslations", [.warning (some (.onLine 2)) (some "b") "Empty translation."]⟩,
        ⟨"FormattingValues", [.error (some (.onLine 1)) (some "a") "Expected 1 formatting values, found 0."]⟩]⟩ } := by
  intro s suite b reference
  have hsuite : s.suite = .ok suite := rfl
  have hnames : ∀ other, other ∈ [CheckName.brackets, .formattingValues, .emptyTranslations] ↔
      other = .emptyTranslations ∨ other ∈ s.enabledChecks := by
    intro other
    cases other <;> simp [s]
  refine ⟨hsuite, ?_, by decide +kernel⟩
  obtain ⟨-, -, -, hinsert⟩ := check_composes
  obtain ⟨suite', hsuite', hreports⟩ := hinsert s _ .emptyTranslations .emptyTranslations suite hnames rfl hsuite
  obtain ⟨front, own, back, hold, hnew, -⟩ := hreports b (some reference)
  exact ⟨suite', hsuite', front, own, back, hold, hnew⟩

end Bundle

end BundleCheck
