import BundleCheck.Proofs.Check.Composition
import BundleCheck.Settings.Validation

/-!
# Stricter settings

Strict settings make one check stricter, fatal ones promote what is found, and with more checks enabled the suite
is longer. None of this takes anything away: each section that a suite adds to a report has its place among those
of the stricter one, with the same findings there and perhaps more.
-/

namespace BundleCheck

/-! ### Reports that say more -/

/-- The other section has the same label and has all these findings, in their order. -/
structure Section.CoveredBy (found other : Section) : Prop where
  label_eq : found.label = other.label
  findings_sublist : found.findings.Sublist other.findings

theorem Section.CoveredBy.refl (found : Section) : found.CoveredBy found := ⟨rfl, .refl _⟩

namespace Report

/-- The sections have their places among those of the other report. -/
def CoveredBy (r other : Report) : Prop := List.SublistForall₂ Section.CoveredBy r.sections other.sections

theorem CoveredBy.refl (r : Report) : r.CoveredBy r :=
  List.sublistForall₂_iff.2 ⟨_, List.forall₂_same.2 fun found _ => .refl found, .refl _⟩

/-- All findings under a label. -/
def under (r : Report) (label : String) : List Finding :=
  r.sections.flatMap fun found => if found.label = label then found.findings else []

variable {r other : Report}

theorem CoveredBy.flatMap_sublist (h : r.CoveredBy other) {f : Section → List Finding}
    (hf : ∀ {found found' : Section}, found.CoveredBy found' → (f found).Sublist (f found')) :
    (r.sections.flatMap f).Sublist (other.sections.flatMap f) := by
  obtain ⟨sections⟩ := r
  obtain ⟨others⟩ := other
  change List.SublistForall₂ Section.CoveredBy sections others at h
  induction h with
  | nil => exact List.nil_sublist _
  | cons hfound _ ih =>
    rw [List.flatMap_cons, List.flatMap_cons]
    exact (hf hfound).append ih
  | cons_right _ ih =>
    rw [List.flatMap_cons]
    exact ih.trans (List.sublist_append_right _ _)

theorem CoveredBy.under_sublist (h : r.CoveredBy other) (label : String) :
    (r.under label).Sublist (other.under label) := by
  refine h.flatMap_sublist ?_
  intro found found' hfound
  rw [hfound.label_eq]
  split
  · exact hfound.findings_sublist
  · exact .refl _

end Report

/-! ### Suites that find more -/

theorem Keys.missing_sublist (reference translation : Content) :
    (missing false reference translation).Sublist (missing true reference translation) := by
  apply List.monotone_filter_right
  intro key hkey
  rw [Bool.and_eq_true] at hkey
  rw [hkey.1, Bool.true_or, Bool.and_true]

namespace Check

/-- The other check is this one, or its strict form. -/
inductive CoveredBy : Check → Check → Prop where
  | same (c : Check) : CoveredBy c c
  | strict : CoveredBy (.missingTranslations false) (.missingTranslations true)

variable {c c' : Check}

theorem CoveredBy.isSingle_eq (h : c.CoveredBy c') : c.isSingle = c'.isSingle := by
  cases h <;> rfl

theorem CoveredBy.found (h : c.CoveredBy c') (translation : Content) (reference : Option Content) :
    (c.found translation reference).CoveredBy (c'.found translation reference) := by
  cases h with
  | same => exact .refl _
  | strict => exact ⟨rfl, (Keys.missing_sublist _ translation).map _⟩

variable {o : CheckOptions} {name : CheckName}

/-- Only one check has an option that strict settings change. -/
theorem exists_build_coveredBy {strict : Bool} (hstrict : o.missingTranslations.strict = true → strict = true)
    (h : build name { o with missingTranslations := ⟨strict⟩ } = .ok c') :
    ∃ c, build name o = .ok c ∧ c.CoveredBy c' := by
  cases name with
  | missingTranslations =>
    refine ⟨_, rfl, ?_⟩
    rw [← Except.ok.inj h]
    cases hlenient : o.missingTranslations.strict with
    | true =>
      rw [hstrict hlenient]
      exact .same _
    | false =>
      cases strict with
      | true => exact .strict
      | false => exact .same _
  | _ => exact ⟨c', h, .same c'⟩

end Check

namespace Suite

/-- Each check of the suite, or its strict form, has its place among those of the other. -/
def CoveredBy (suite other : Suite) : Prop := List.SublistForall₂ Check.CoveredBy suite other

theorem contribution_cons_eq (c : Check) (suite : Suite) (translation : Content) (reference : Option Content) :
    contribution (c :: suite) translation reference =
      if (reference.isSome || c.isSingle) && !(c.found translation reference).isEmpty then
        c.found translation reference :: contribution suite translation reference
      else contribution suite translation reference := by
  rw [contribution, applicable, List.filter_cons]
  cases happlies : reference.isSome || c.isSingle with
  | false => rfl
  | true =>
    rw [if_pos rfl, List.map_cons, List.filter_cons, Bool.true_and]
    rfl

theorem CoveredBy.contribution {suite other : Suite} (h : suite.CoveredBy other) (translation : Content)
    (reference : Option Content) :
    List.SublistForall₂ Section.CoveredBy (suite.contribution translation reference)
      (other.contribution translation reference) := by
  change List.SublistForall₂ Check.CoveredBy suite other at h
  induction h with
  | nil => exact .nil
  | @cons c c' _ _ hc _ ih =>
    have hfound := hc.found translation reference
    rw [contribution_cons_eq, contribution_cons_eq, ← hc.isSingle_eq]
    cases hcounts : (reference.isSome || c.isSingle) && !(c.found translation reference).isEmpty with
    | false =>
      rw [if_neg Bool.false_ne_true]
      split
      · exact .cons_right ih
      · exact ih
    | true =>
      -- A section that holds something is covered by one that does.
      obtain ⟨happlies, hsome⟩ := Bool.and_eq_true_iff.1 hcounts
      have hsome' : (!(c'.found translation reference).isEmpty) = true := by
        rw [Bool.not_eq_true', Section.isEmpty, List.isEmpty_eq_false_iff] at hsome ⊢
        exact fun hnil => hsome (List.sublist_nil.1 (hnil ▸ hfound.findings_sublist))
      rw [happlies, hsome', Bool.and_true, if_pos rfl]
      exact .cons hfound ih
  | cons_right _ ih =>
    rw [contribution_cons_eq]
    split
    · exact .cons_right ih
    · exact ih

end Suite

/-! ### Documents -/

namespace Bundle

/-- The same document with a report that covers this one's. -/
structure CoveredBy (b other : Bundle) : Prop where
  file_eq : b.file = other.file
  language_eq : b.language = other.language
  content_eq : b.content = other.content
  report : b.report.CoveredBy other.report

variable {b b' checked : Bundle} {suite suite' : Suite} {reference reference' : Option Bundle}

theorem CoveredBy.refl (b : Bundle) : b.CoveredBy b := ⟨rfl, rfl, rfl, .refl _⟩

theorem exists_check_coveredBy (hsuite : suite.CoveredBy suite')
    (hreference : reference'.map content = reference.map content) (h : b.check reference suite = .ok checked) :
    ∃ checked', b.check reference' suite' = .ok checked' ∧ checked.CoveredBy checked' := by
  rw [check_eq] at h
  rw [← Except.ok.inj h, check_eq, hreference]
  refine ⟨_, rfl, rfl, rfl, rfl, ?_⟩
  show List.SublistForall₂ _ _ _
  induction b.report.sections with
  | nil => exact hsuite.contribution _ _
  | cons found _ ih => exact .cons (.refl found) ih

end Bundle

/-! ### Settings that ask for more -/

section Traversal

variable {ε α β : Type} {f f' : α → Except ε β}

theorem exists_of_mapM_cons {a : α} {rest : List α} {bs : List β} (h : (a :: rest).mapM f = .ok bs) :
    ∃ b others, f a = .ok b ∧ rest.mapM f = .ok others ∧ bs = b :: others := by
  rw [List.mapM_cons] at h
  cases hfirst : f a with
  | error e => simp [hfirst, bind, Except.bind] at h
  | ok b =>
    cases hrest : rest.mapM f with
    | error e => simp [hfirst, hrest, bind, Except.bind] at h
    | ok others =>
      rw [hfirst, hrest] at h
      exact ⟨b, others, rfl, rfl, (Except.ok.inj h).symm⟩

/-- Where all results of one function on a list have counterparts, the other function succeeds on a part of it. -/
theorem exists_mapM_of_sublist {R : β → β → Prop} (hstep : ∀ a b', f' a = .ok b' → ∃ b, f a = .ok b ∧ R b b')
    {as as' : List α} (h : as.Sublist as') :
    ∀ bs', as'.mapM f' = .ok bs' → ∃ bs, as.mapM f = .ok bs ∧ List.SublistForall₂ R bs bs' := by
  induction h with
  | slnil => exact fun bs' _ => ⟨[], rfl, .nil⟩
  | cons a _ ih =>
    intro bs' hmap
    obtain ⟨b', others', -, hrest, rfl⟩ := exists_of_mapM_cons hmap
    obtain ⟨bs, hbs, hcovered⟩ := ih others' hrest
    exact ⟨bs, hbs, .cons_right hcovered⟩
  | cons_cons a _ ih =>
    intro bs' hmap
    obtain ⟨b', others', hfirst, hrest, rfl⟩ := exists_of_mapM_cons hmap
    obtain ⟨b, hb, hfirstCovered⟩ := hstep a b' hfirst
    obtain ⟨bs, hbs, hcovered⟩ := ih others' hrest
    refine ⟨b :: bs, ?_, .cons hfirstCovered hcovered⟩
    rw [List.mapM_cons, hb, hbs]
    rfl

end Traversal

namespace Settings

/-- The settings made strict or fatal, with other checks enabled. -/
def tightened (s : Settings) (strict fatal : Bool) (names : List CheckName) : Settings :=
  { s with strict := s.strict || strict, fatal := s.fatal || fatal, enabledChecks := names }

variable {s : Settings} {strict fatal : Bool} {names : List CheckName}

theorem effectiveChecks_eq (s : Settings) :
    s.effectiveChecks =
      { s.checks with missingTranslations := ⟨s.strict || s.checks.missingTranslations.strict⟩ } := by
  rw [effectiveChecks]
  cases s.strict <;> rfl

theorem exists_suite_of_tightened (hnames : s.enabledChecks ⊆ names) {suite' : Suite}
    (h : (s.tightened strict fatal names).suite = .ok suite') :
    ∃ suite, s.suite = .ok suite ∧ suite.CoveredBy suite' := by
  have hsublist : (CheckName.all.filter s.enabledChecks.contains).Sublist (CheckName.all.filter names.contains) := by
    apply List.monotone_filter_right
    intro name hname
    rw [List.contains_iff_mem] at hname ⊢
    exact hnames hname
  refine exists_mapM_of_sublist (fun name c' hbuild => ?_) hsublist suite' h
  rw [effectiveChecks_eq] at hbuild ⊢
  refine Check.exists_build_coveredBy ?_ hbuild
  intro hstrict
  have hstays : (s.strict || s.checks.missingTranslations.strict || strict) = true :=
    Bool.or_eq_true_iff.2 (.inl hstrict)
  exact (Bool.or_right_comm _ _ _).trans hstays

theorem isValid_iff (s : Settings) :
    s.IsValid ↔ (isSeparator s.separator = true ∧ isCommentMarker s.commentMarker = true ∧
      isMarker s.deferralMarker = true ∧ s.fileSuffix ≠ "") ∧ ∃ suite, s.suite = .ok suite := by
  rw [IsValid, fault?]
  cases hseparator : isSeparator s.separator <;> cases hcomment : isCommentMarker s.commentMarker <;>
    cases hmarker : isMarker s.deferralMarker <;> by_cases hsuffix : s.fileSuffix = "" <;>
    cases hsuite : s.suite <;> simp [hsuffix]

theorem IsValid.of_tightened (hnames : s.enabledChecks ⊆ names)
    (h : (s.tightened strict fatal names).IsValid) : s.IsValid := by
  obtain ⟨hfields, suite', hsuite'⟩ := (isValid_iff _).1 h
  obtain ⟨suite, hsuite, -⟩ := exists_suite_of_tightened hnames hsuite'
  exact (isValid_iff s).2 ⟨hfields, suite, hsuite⟩

end Settings

end BundleCheck
