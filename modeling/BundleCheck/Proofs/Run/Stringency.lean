import BundleCheck.Proofs.Check.Stringency
import BundleCheck.Proofs.Run.Verdict

/-!
# Stricter checks hide nothing

Two checks of which one is stricter take the same turns: what is written, and whether a turn fails, does not depend
on what is found. They differ in their notes, and each report of the lenient one is covered by that of the other. So
the number of errors can only grow, and with it the exit status.
-/

namespace BundleCheck

/-! ### Deeds -/

/-- The file that the deed writes, and the text for it. -/
def Deed.writing? : Deed → Option (String × String)
  | .wrote path text => some (path, text)
  | .said _ => none

def writings (deeds : List Deed) : List (String × String) := deeds.filterMap Deed.writing?

/-- The same is written, some note is made, or a report is given that covers the other. -/
inductive Deed.CoveredBy : Deed → Deed → Prop where
  | wrote (path text : String) : CoveredBy (.wrote path text) (.wrote path text)
  | noted (p p' : Printer) (text text' : String) : CoveredBy (.said ⟨p, .note text⟩) (.said ⟨p', .note text'⟩)
  | reported (p p' : Printer) {b b' : Bundle} (h : b.CoveredBy b') :
      CoveredBy (.said ⟨p, .report b⟩) (.said ⟨p', .report b'⟩)

section Deeds

variable {deeds deeds' : List Deed} (h : List.Forall₂ Deed.CoveredBy deeds deeds')

include h

theorem treeAfter_coveredBy (directory : Location) (tree : Tree) :
    treeAfter directory tree deeds' = treeAfter directory tree deeds := by
  induction h generalizing tree with
  | nil => rfl
  | @cons d d' _ _ hd _ ih =>
    have hleave : d'.leave directory tree = d.leave directory tree := by cases hd <;> rfl
    exact (congrArg (treeAfter directory · _) hleave).trans (ih _)

theorem writings_coveredBy : writings deeds' = writings deeds := by
  induction h with
  | nil => rfl
  | cons hd _ ih =>
    rw [writings, writings] at ih ⊢
    rw [List.filterMap_cons, List.filterMap_cons, ih]
    cases hd <;> rfl

theorem documents_coveredBy : List.Forall₂ Bundle.CoveredBy (documents deeds) (documents deeds') := by
  induction h with
  | nil => exact .nil
  | cons hd _ ih =>
    cases hd with
    | wrote path text => exact ih
    | noted p p' text text' => exact ih
    | reported p p' hb => exact .cons hb ih

end Deeds

theorem Report.CoveredBy.counted_le {r other : Report} (h : r.CoveredBy other) (lenient fatal : Bool) :
    r.counted lenient ≤ other.counted (lenient || fatal) := by
  have hfindings : r.findings.Sublist other.findings := h.flatMap_sublist fun hfound => hfound.findings_sublist
  rw [counted_eq_countP, counted_eq_countP]
  refine Nat.le_trans (List.countP_mono_left fun f _ hf => ?_) hfindings.countP_le
  rw [Bool.or_right_comm, hf, Bool.true_or]

/-! ### Turns -/

/-- Both come to their end, or both fail with the same failure. -/
inductive EndsAs {α β : Type} : Except Failure α → Except Failure β → Prop where
  | ok (a : α) (b : β) : EndsAs (.ok a) (.ok b)
  | error (f : Failure) : EndsAs (.error f) (.error f)

theorem EndsAs.map {α β γ δ : Type} {result : Except Failure α} {result' : Except Failure β}
    (h : EndsAs result result') (f : α → γ) (g : β → δ) : EndsAs (result.map f) (result'.map g) := by
  cases h with
  | ok a b => exact .ok (f a) (g b)
  | error e => exact .error e

/-- A step is covered by one that does the same and says no less. -/
def Covered {α : Type} (step' : List Deed → Except Failure α → Prop) (deeds : List Deed)
    (result : Except Failure α) : Prop :=
  ∃ deeds' result', step' deeds' result' ∧ List.Forall₂ Deed.CoveredBy deeds deeds' ∧ EndsAs result result'

/-- A task under stricter settings. -/
structure Task.TightenedBy (t t' : Task) : Prop where
  settings : ∃ strict fatal names, t'.settings = t.settings.tightened strict fatal names
  suite : t.suite.CoveredBy t'.suite

section Turns

variable {t t' : Task} {directory : Location} {reference reference' b : Bundle} {base language path : String}
  {tree : Tree} {deeds : List Deed} {result : Except Failure Nat}

theorem Task.TightenedBy.indented (h : t.TightenedBy t') : t.indented.TightenedBy t'.indented := ⟨h.settings, h.suite⟩

theorem UsableCourse.tightened (h : UsableCourse t directory reference path tree b deeds result)
    (ht : t.TightenedBy t') (hreference : reference'.content = reference.content) :
    Covered (UsableCourse t' directory reference' path tree b) deeds result := by
  obtain ⟨s', suite', printer'⟩ := t'
  obtain ⟨⟨strict, fatal, names, rfl⟩, hsuite⟩ := ht
  have hoption : (some reference').map Bundle.content = (some reference).map Bundle.content :=
    congrArg some hreference
  have hupdated : ∀ {b b' : Bundle}, b.CoveredBy b' →
      (b.update t.settings reference).CoveredBy (b'.update (t.settings.tightened strict fatal names) reference') := by
    intro b b' hb
    refine ⟨hb.file_eq, hb.language_eq, ?_, hb.report⟩
    rw [Bundle.update, Bundle.update, hb.content_eq, hreference]
    rfl
  cases h with
  | checked hcheck hupdate =>
    obtain ⟨b', hcheck', hb⟩ := Bundle.exists_check_coveredBy hsuite hoption hcheck
    exact ⟨_, _, .checked hcheck' hupdate, .cons (.reported _ _ hb) .nil, .ok _ _⟩
  | updated hcheck hupdate hwrite =>
    obtain ⟨b', hcheck', hb⟩ := Bundle.exists_check_coveredBy hsuite hoption hcheck
    rw [(hupdated hb).content_eq] at hwrite ⊢
    exact ⟨_, _, .updated hcheck' hupdate hwrite,
      .cons (.wrote _ _) (.cons (.noted _ _ _ _) (.cons (.reported _ _ (hupdated hb)) .nil)), .ok _ _⟩
  | unwritten hcheck hupdate hwrite =>
    obtain ⟨b', hcheck', hb⟩ := Bundle.exists_check_coveredBy hsuite hoption hcheck
    rw [(hupdated hb).content_eq] at hwrite ⊢
    exact ⟨_, _, .unwritten hcheck' hupdate hwrite, .cons (.wrote _ _) .nil, .error _⟩

theorem TranslationCourse.tightened
    (h : TranslationCourse t directory reference base language tree deeds result) (ht : t.TightenedBy t')
    (hreference : reference'.content = reference.content) :
    Covered (TranslationCourse t' directory reference' base language tree) deeds result := by
  have hrest : ∀ {path tree b deeds result}, UsableCourse t directory reference path tree b deeds result →
      Covered (UsableCourse t' directory reference' path tree b) deeds result :=
    fun h => h.tightened ht hreference
  obtain ⟨s', suite', printer'⟩ := t'
  obtain ⟨⟨strict, fatal, names, rfl⟩, hsuite⟩ := ht
  have hcreated : Bundle.createFrom (t.settings.tightened strict fatal names) reference' language =
      Bundle.createFrom t.settings reference language := by
    rw [Bundle.createFrom, Bundle.createFrom, Bundle.update, Bundle.update, hreference]
    rfl
  cases h with
  | nameless hpath => exact ⟨_, _, .nameless hpath, .nil, .error _⟩
  | missing hpath habsent hcreate hb =>
    exact ⟨_, _, .missing hpath habsent hcreate hb, .cons (.reported _ _ (.refl _)) .nil, .ok _ _⟩
  | uncreated hpath habsent hcreate hwrite =>
    rw [← hcreated] at hwrite ⊢
    exact ⟨_, _, .uncreated hpath habsent hcreate hwrite, .cons (.wrote _ _) .nil, .error _⟩
  | created hpath habsent hcreate hwrite husable =>
    rw [← hcreated] at hwrite husable ⊢
    obtain ⟨deeds', result', husable', hdeeds, hend⟩ := hrest husable
    exact ⟨_, _, .created hpath habsent hcreate hwrite husable',
      .cons (.wrote _ _) (.cons (.noted _ _ _ _) hdeeds), hend⟩
  | unreadable hpath hpresent hread => exact ⟨_, _, .unreadable hpath hpresent hread, .nil, .error _⟩
  | malformed hpath hread hstop hb =>
    exact ⟨_, _, .malformed hpath hread hstop hb, .cons (.reported _ _ (.refl _)) .nil, .ok _ _⟩
  | legible hpath hread hall husable =>
    obtain ⟨deeds', result', husable', hdeeds, hend⟩ := hrest husable
    exact ⟨_, _, .legible hpath hread hall husable', hdeeds, hend⟩

theorem Successive.covered {α : Type} {step step' : α → Tree → List Deed → Except Failure Nat → Prop} {as : List α}
    (hstep : ∀ a tree deeds result, step a tree deeds result → Covered (step' a tree) deeds result)
    (h : Successive directory step as tree deeds result) :
    Covered (Successive directory step' as tree) deeds result := by
  induction h with
  | nil => exact ⟨_, _, .nil, .nil, .ok 0 0⟩
  | next hfirst hrest ih =>
    obtain ⟨deeds', result', hfirst', hdeeds, hend⟩ := hstep _ _ _ _ hfirst
    cases hend with
    | ok n n' =>
      obtain ⟨others', rest', hrest', hothers, hlast⟩ := ih
      rw [← treeAfter_coveredBy hdeeds] at hrest'
      exact ⟨_, _, .next hfirst' hrest', List.rel_append hdeeds hothers, hlast.map _ _⟩
  | stop hfirst =>
    obtain ⟨deeds', result', hfirst', hdeeds, hend⟩ := hstep _ _ _ _ hfirst
    cases hend with
    | error => exact ⟨_, _, .stop hfirst', hdeeds, .error _⟩

theorem BaseCourse.tightened (h : BaseCourse t directory base tree deeds result) (ht : t.TightenedBy t') :
    Covered (BaseCourse t' directory base tree) deeds result := by
  have hstep : ∀ {reference reference' : Bundle}, reference'.content = reference.content →
      ∀ language tree deeds result, TranslationCourse t.indented directory reference base language tree deeds result →
        Covered (TranslationCourse t'.indented directory reference' base language tree) deeds result :=
    fun hreference _ _ _ _ hturn => hturn.tightened ht.indented hreference
  obtain ⟨s', suite', printer'⟩ := t'
  obtain ⟨⟨strict, fatal, names, rfl⟩, hsuite⟩ := ht
  cases h with
  | missing habsent => exact ⟨_, _, .missing habsent, .nil, .error _⟩
  | unreadable hpresent hread => exact ⟨_, _, .unreadable hpresent hread, .nil, .error _⟩
  | patternless hread hfault => exact ⟨_, _, .patternless hread hfault, .nil, .error _⟩
  | malformed hread hpattern hstop => exact ⟨_, _, .malformed hread hpattern hstop, .nil, .error _⟩
  | legible hread hpattern hall hcheck hrest =>
    have hnone : (none : Option Bundle).map Bundle.content = (none : Option Bundle).map Bundle.content := rfl
    obtain ⟨reference', hcheck', hreference⟩ := Bundle.exists_check_coveredBy hsuite hnone hcheck
    obtain ⟨deeds', result', hrest', hdeeds, hend⟩ := hrest.covered (hstep hreference.content_eq.symm)
    exact ⟨_, _, .legible hread hpattern hall hcheck' hrest', .cons (.reported _ _ hreference) hdeeds, hend.map _ _⟩

end Turns

/-! ### The command -/

section Project

variable {color : Bool} {s : Settings} {strict fatal : Bool} {names : List CheckName} {source : Option String}
  {directory : Location} {tree : Tree} {deeds : List Deed} {result : Except Failure ExitStatus}

theorem ProjectCourse.tightened (h : ProjectCourse color s source directory tree deeds result)
    (hnames : s.enabledChecks ⊆ names) (hvalid : (s.tightened strict fatal names).IsValid)
    (source' : Option String) :
    Covered (ProjectCourse color (s.tightened strict fatal names) source' directory tree) deeds result := by
  cases h with
  | invalid hfault =>
    cases (show s.fault? = none from hvalid.of_tightened hnames).symm.trans hfault
  | idle _ hfiles => exact ⟨_, _, .idle hvalid hfiles, .nil, .error _⟩
  | @checked suite deeds result _ hfiles hsuite hrest =>
    obtain ⟨suite', hsuite'⟩ := hvalid.exists_suite
    obtain ⟨lenient, hlenient, hcovered⟩ := Settings.exists_suite_of_tightened hnames hsuite'
    rw [Except.ok.inj (hlenient.symm.trans hsuite)] at hcovered
    have ht : Task.TightenedBy ⟨s, suite, s.printer color⟩
        ⟨s.tightened strict fatal names, suite', (s.tightened strict fatal names).printer color⟩ :=
      ⟨⟨strict, fatal, names, rfl⟩, hcovered⟩
    obtain ⟨deeds', result', hrest', hdeeds, hend⟩ := hrest.covered fun base tree deeds result hbase =>
      BaseCourse.tightened hbase ht
    exact ⟨_, _, .checked hvalid hfiles hsuite' hrest', .cons (.noted _ _ _ _) (.cons (.noted _ _ _ _) hdeeds),
      hend.map _ _⟩

end Project

section Request

variable {r r' : CheckRequest} {color : Bool} {s : Settings} {strict fatal : Bool} {names : List CheckName}
  {directory : Location} {tree : Tree} {deeds : List Deed} {result : Except Failure ExitStatus}

/-- Flags make the settings strict or fatal, and a list of checks takes the place of the enabled ones. -/
theorem CheckRequest.settingsOn?_tightened {checks : List CheckName} (hchecks : checks = r.checks ∨ checks ≠ [])
    (hs : r.settingsOn? tree directory = some s) (strict fatal : Bool) :
    CheckRequest.settingsOn? { r with strict := r.strict || strict, fatal := r.fatal || fatal, checks } tree
      directory = some (s.tightened strict fatal (overriding checks s.enabledChecks)) := by
  obtain ⟨loaded, hload, rfl⟩ := CheckRequest.exists_loadedOn hs
  have hnames : overriding checks (overriding r.checks loaded.settings.enabledChecks) =
      overriding checks loaded.settings.enabledChecks := by
    by_cases hgiven : checks.isEmpty = true
    · have hsame : checks = r.checks := hchecks.resolve_right (by simpa using hgiven)
      rw [← hsame, overriding, if_pos hgiven]
    · have hself : ∀ others : List CheckName, overriding checks others = checks := fun others => if_neg hgiven
      rw [hself, hself]
  have hload' : CheckRequest.loadedOn { r with strict := r.strict || strict, fatal := r.fatal || fatal, checks } tree
      directory = .ok loaded := hload
  rw [settingsOn?_eq, hload']
  refine congrArg some ?_
  simp only [apply, Settings.tightened, Bool.or_assoc, hnames]

theorem CheckCourse.tightened (h : CheckCourse r color directory tree deeds result)
    (hs : r.settingsOn? tree directory = some s)
    (hs' : r'.settingsOn? tree directory = some (s.tightened strict fatal names))
    (hnames : s.enabledChecks ⊆ names) (hvalid : (s.tightened strict fatal names).IsValid) :
    Covered (CheckCourse r' color directory tree) deeds result := by
  obtain ⟨loaded, hload, rfl⟩ := CheckRequest.exists_loadedOn hs
  obtain ⟨loaded', hload', happly'⟩ := CheckRequest.exists_loadedOn hs'
  cases h with
  | unsettled hfailed => cases hload.symm.trans hfailed
  | settled hloaded hrest =>
    obtain rfl := Except.ok.inj (hload.symm.trans hloaded)
    obtain ⟨deeds', result', hrest', hdeeds, hend⟩ := hrest.tightened hnames hvalid loaded'.source
    rw [← happly'] at hrest'
    exact ⟨_, _, .settled hload' hrest', hdeeds, hend⟩

end Request

theorem sum_counted_le {bs bs' : List Bundle} (h : List.Forall₂ Bundle.CoveredBy bs bs') (lenient fatal : Bool) :
    (bs.map fun b => b.report.counted lenient).sum ≤ (bs'.map fun b => b.report.counted (lenient || fatal)).sum := by
  induction h with
  | nil => exact Nat.le_refl _
  | cons hb _ ih =>
    rw [List.map_cons, List.map_cons, List.sum_cons, List.sum_cons]
    exact Nat.add_le_add (hb.report.counted_le lenient fatal) ih

theorem ExitStatus.code_ofErrors_le {n m : Nat} (h : n ≤ m) : (ofErrors n).code ≤ (ofErrors m).code := by
  by_cases hn : n = 0
  · rw [hn]
    exact Nat.zero_le _
  · rw [(ofErrors_of_ne hn).2.1, (ofErrors_of_ne (by omega : m ≠ 0)).2.1]
    omega

namespace Command

variable {r r' : CheckRequest} {color : Bool} {tree : Tree} {directory : Location} {s : Settings} {deeds : List Deed}

/-- Settings that are stricter, fatal or enable more checks change nothing in what a check writes and in whether it
fails, as long as they are valid. If both checks come to their end, the stricter one counts no fewer errors, and
each of its reports has all that the other's has under the same labels. -/
theorem stricter_check_hides_nothing (color : Bool) {strict fatal : Bool} {names : List CheckName}
    (hs : r.settingsOn? tree directory = some s)
    (hs' : r'.settingsOn? tree directory = some (s.tightened strict fatal names))
    (hnames : s.enabledChecks ⊆ names) :
    let lenient := (check r).run color tree directory
    let stern := (check r').run color tree directory
    let sameFiles := writings ((check r').journal color tree directory).deeds =
      writings ((check r).journal color tree directory).deeds ∧ stern.world.tree = lenient.world.tree
    ((s.tightened strict fatal names).IsValid → stern.failure = lenient.failure ∧ sameFiles) ∧
    (lenient.failure = none → stern.failure = none →
      sameFiles ∧
      lenient.status = .ofErrors (lenient.world.counted s.fatal) ∧
      stern.status = .ofErrors (stern.world.counted (s.fatal || fatal)) ∧
      lenient.world.counted s.fatal ≤ stern.world.counted (s.fatal || fatal) ∧
      lenient.status.code ≤ stern.status.code ∧
      (stern.status = .success → lenient.status = .success) ∧
      List.Forall₂ (fun b b' => b.file = b'.file ∧ b.language = b'.language ∧
        ∀ label, (b.report.under label).Sublist (b'.report.under label)) lenient.world.documents
          stern.world.documents) := by
  intro lenient stern sameFiles
  obtain ⟨deeds, result, hcourse⟩ := exists_checkCourse r color tree directory
  have hlenient : lenient = _ := run_of_course hcourse
  have hcovered : (s.tightened strict fatal names).IsValid → ∃ deeds' result',
      CheckCourse r' color directory tree deeds' result' ∧ sameFiles ∧
      List.Forall₂ Deed.CoveredBy deeds deeds' ∧ EndsAs result result' := by
    intro hvalid
    obtain ⟨deeds', result', hcourse', hdeeds, hend⟩ := hcourse.tightened hs hs' hnames hvalid
    refine ⟨deeds', result', hcourse', ⟨?_, ?_⟩, hdeeds, hend⟩
    · rw [journal_of_course hcourse, journal_of_course hcourse', writings_coveredBy hdeeds]
    · rw [hlenient, show stern = _ from run_of_course hcourse', treeAfter_coveredBy hdeeds, outcomeOf_world,
        outcomeOf_world]
  constructor
  · intro hvalid
    obtain ⟨deeds', result', hcourse', hsame, -, hend⟩ := hcovered hvalid
    refine ⟨?_, hsame⟩
    rw [hlenient, show stern = _ from run_of_course hcourse']
    cases hend <;> rfl
  · intro hlenientEnds hsternEnds
    obtain ⟨deeds', result', hcourse', hsame, hdeeds, hend⟩ := hcovered (isValid_of_ends hs' hsternEnds)
    rw [hlenient] at hlenientEnds
    cases hend with
    | error f => cases hlenientEnds
    | ok status status' =>
      have hstatus : lenient.status = _ := status_of_course hcourse hs
      have hstatus' : stern.status = .ofErrors (stern.world.counted (s.fatal || fatal)) :=
        status_of_course hcourse' hs'
      have hdocuments : List.Forall₂ Bundle.CoveredBy lenient.world.documents stern.world.documents := by
        rw [show lenient.world.documents = _ from documents_of_course hcourse,
          show stern.world.documents = _ from documents_of_course hcourse']
        exact documents_coveredBy hdeeds
      have hle : lenient.world.counted s.fatal ≤ stern.world.counted (s.fatal || fatal) :=
        sum_counted_le hdocuments s.fatal fatal
      refine ⟨hsame, hstatus, hstatus', hle, ?_, ?_, ?_⟩
      · rw [hstatus, hstatus']
        exact ExitStatus.code_ofErrors_le hle
      · rw [hstatus, hstatus', ExitStatus.ofErrors_eq_success_iff, ExitStatus.ofErrors_eq_success_iff]
        exact fun hnone => Nat.eq_zero_of_le_zero (hnone ▸ hle)
      · exact hdocuments.imp fun b b' hb => ⟨hb.file_eq, hb.language_eq, hb.report.under_sublist⟩

/-- One key is deferred and one is missing. Strict and fatal settings count both, and a bracket that is not closed. -/
theorem stricter_check_hides_nothing_deferred_key :
    let r : CheckRequest :=
      { bases := ["a.properties"], languages := ["de"], checks := [.missingTranslations], update := true }
    let r' : CheckRequest := { r with strict := true, fatal := true, checks := [.brackets, .missingTranslations] }
    let tree : Tree :=
      ⟨[(["a.properties"], .file (.text "k = v
l = w
m = x")),
        (["a_de.properties"], .file (.text "# ==> l =
m = ("))]⟩
    let lenient := (check r).run false tree []
    let stern := (check r').run false tree []
    lenient.status = .success ∧ stern.status = .failure 3 ∧ lenient.status.code ≤ stern.status.code ∧
      stern.world.tree = lenient.world.tree ∧
      stern.world.tree.node? ["a_de.properties"] = some (.file (.text "# ==> k =
# ==> l =
m = (")) ∧
      lenient.world.documents.map (fun b => (b.report.under "MissingTranslations").map (·.key)) = [[], [some "k"]] ∧
      stern.world.documents.map (fun b => (b.report.under "MissingTranslations").map (·.key)) =
        [[], [some "k", some "l"]] := by
  intro r r' tree lenient stern
  have hs : r.settingsOn? tree [] = some (r.apply .standard) := by decide +kernel
  have hs' : r'.settingsOn? tree [] = some ((r.apply .standard).tightened true true r'.checks) :=
    CheckRequest.settingsOn?_tightened (.inr (List.cons_ne_nil _ _)) hs true true
  have hnames : (r.apply .standard).enabledChecks ⊆ r'.checks := by decide
  have hlenientEnds : lenient.failure = none := by decide +kernel
  have hsternEnds : stern.failure = none := by decide +kernel
  have hlenient : lenient.status = .success := by decide +kernel
  have hstern : stern.status = .failure 3 := by decide +kernel
  have hnode : stern.world.tree.node? ["a_de.properties"] =
      some (.file (.text "# ==> k =
# ==> l =
m = (")) := by decide +kernel
  have hfew : lenient.world.documents.map (fun b => (b.report.under "MissingTranslations").map (·.key)) =
      [[], [some "k"]] := by decide +kernel
  have hmany : stern.world.documents.map (fun b => (b.report.under "MissingTranslations").map (·.key)) =
      [[], [some "k", some "l"]] := by decide +kernel
  clear_value r r' tree
  obtain ⟨hsame, -, -, -, hcode, -⟩ :=
    (stricter_check_hides_nothing false hs hs' hnames).2 hlenientEnds hsternEnds
  exact ⟨hlenient, hstern, hcode, hsame.2, hnode, hfew, hmany⟩

end Command

end BundleCheck
