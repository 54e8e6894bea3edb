import BundleCheck.Proofs.Run.Writes
import Mathlib.Algebra.GroupWithZero.Nat

/-!
# What the exit status says

A check that comes to its end has reported each base file and each of its translations once, in order, and
the errors that it returns are those in the reports, with the warnings where these count. So the status is a
success exactly if no report fails. A check that fails was stopped by a malformed reference or by something
that is no syntax error: a malformed translation is reported like any other, with one error.
-/

namespace BundleCheck

/-! ### Numbers -/

namespace Report

def findings (r : Report) : List Finding := r.sections.flatMap Section.findings

theorem total_eq_countP (r : Report) (severity : Severity) :
    r.total (fun s => s.findings.countP (·.severity = severity)) = r.findings.countP (·.severity = severity) := by
  obtain ⟨sections⟩ := r
  rw [total, findings]
  induction sections with
  | nil => rfl
  | cons s rest ih => rw [List.foldr_cons, List.flatMap_cons, List.countP_append, ih]

/-- What a report counts are its errors, and its warnings too where these are promoted. -/
theorem counted_eq_countP (r : Report) (promote : Bool) :
    r.counted promote = r.findings.countP fun f => promote || f.severity = .error := by
  have herrors : r.errors = r.findings.countP (·.severity = .error) := r.total_eq_countP .error
  have hwarnings : r.warnings = r.findings.countP (·.severity = .warning) := r.total_eq_countP .warning
  cases promote with
  | false => simpa [counted] using herrors
  | true =>
    have hnot : (fun f : Finding => decide (f.severity = .warning)) = fun f => !decide (f.severity = .error) := by
      funext f
      cases f.severity <;> rfl
    rw [counted, if_pos rfl, herrors, hwarnings, hnot]
    simpa using (List.length_eq_countP_add_countP (fun f : Finding => decide (f.severity = .error))).symm

end Report

/-! ### Documents -/

/-- Path and language of a base file and its translations. -/
def Settings.baseRoster (s : Settings) (base : String) : List (Option String × Option String) :=
  (some base, none) :: s.languages.map fun language => ((s.languageFile base language).toOption, some language)

/-- Path and language of all documents of a run, in order. -/
def Settings.roster (s : Settings) : List (Option String × Option String) := s.files.flatMap s.baseRoster

/-- The documents that are reported, and what they count. -/
structure Tally (fatal : Bool) (roster : List (Option String × Option String)) (deeds : List Deed) (n : Nat) :
    Prop where
  roster_eq : (documents deeds).map (fun b => (b.file, b.language)) = roster
  sum_eq : ((documents deeds).map fun b => b.report.counted fatal).sum = n

namespace Tally

variable {fatal : Bool} {roster roster' : List (Option String × Option String)} {deeds others : List Deed} {n m : Nat}

theorem nil : Tally fatal [] [] 0 := ⟨rfl, rfl⟩

theorem append (h : Tally fatal roster deeds n) (h' : Tally fatal roster' others m) :
    Tally fatal (roster ++ roster') (deeds ++ others) (n + m) where
  roster_eq := by rw [documents_append, List.map_append, h.roster_eq, h'.roster_eq]
  sum_eq := by rw [documents_append, List.map_append, List.sum_append, h.sum_eq, h'.sum_eq]

theorem cons {d : Deed} (hd : d.document? = none) (h : Tally fatal roster deeds n) :
    Tally fatal roster (d :: deeds) n := by
  have hdocuments : documents (d :: deeds) = documents deeds := List.filterMap_cons_none hd
  exact ⟨hdocuments ▸ h.roster_eq, hdocuments ▸ h.sum_eq⟩

theorem reported (t : Task) {b : Bundle} {file language : Option String} (hfile : b.file = file)
    (hlanguage : b.language = language) :
    Tally t.settings.fatal [(file, language)] [t.reported b] (t.counted b) := by
  subst hfile hlanguage
  exact ⟨rfl, Nat.add_zero _⟩

end Tally

section Courses

variable {t : Task} {directory : Location} {reference b : Bundle} {base language path : String} {tree : Tree}
  {deeds : List Deed} {n : Nat}

theorem UsableCourse.tally (h : UsableCourse t directory reference path tree b deeds (.ok n))
    (hfile : b.file = some path) (hlanguage : b.language = some language) :
    Tally t.settings.fatal [(some path, some language)] deeds n := by
  cases h with
  | checked hcheck hupdate =>
    obtain ⟨report, rfl⟩ := Bundle.eq_of_check hcheck
    exact .reported t hfile hlanguage
  | updated hcheck hupdate hwrite =>
    obtain ⟨report, rfl⟩ := Bundle.eq_of_check hcheck
    exact .cons rfl (.cons rfl (.reported t hfile hlanguage))

theorem TranslationCourse.tally (h : TranslationCourse t directory reference base language tree deeds (.ok n)) :
    Tally t.settings.fatal [((t.settings.languageFile base language).toOption, some language)] deeds n := by
  cases h with
  | missing hpath habsent hcreate hb =>
    rw [hpath, ← hb]
    exact .reported t rfl rfl
  | created hpath habsent hcreate hwrite hrest =>
    rw [hpath]
    exact .cons rfl (.cons rfl (hrest.tally rfl rfl))
  | malformed hpath hread hstop hb =>
    obtain ⟨hfile, hlanguage, -⟩ := Bundle.eq_of_read hstop
    rw [hpath, ← hb]
    exact .reported t hfile hlanguage
  | legible hpath hread hall hrest =>
    obtain ⟨hfile, hlanguage, -⟩ := Bundle.eq_of_read hall
    rw [hpath]
    exact hrest.tally hfile hlanguage

theorem Successive.tally {α : Type} {step : α → Tree → List Deed → Except Failure Nat → Prop} {fatal : Bool}
    {roster : α → List (Option String × Option String)}
    (hstep : ∀ a tree deeds n, step a tree deeds (.ok n) → Tally fatal (roster a) deeds n) {as : List α}
    (h : Successive directory step as tree deeds (.ok n)) : Tally fatal (as.flatMap roster) deeds n := by
  generalize hresult : Except.ok n = result at h
  induction h generalizing n with
  | nil =>
    obtain rfl := Except.ok.inj hresult
    exact .nil
  | @next a rest tree deeds others k result hfirst hrest ih =>
    cases result with
    | error f => cases hresult
    | ok m =>
      obtain rfl := Except.ok.inj hresult
      exact (hstep a _ _ k hfirst).append (ih rfl)
  | stop hfirst => cases hresult

theorem BaseCourse.tally (h : BaseCourse t directory base tree deeds (.ok n)) :
    Tally t.settings.fatal (t.settings.baseRoster base) deeds n := by
  generalize hresult : Except.ok n = result at h
  cases h with
  | missing habsent => cases hresult
  | unreadable hpresent hread => cases hresult
  | patternless hread hfault => cases hresult
  | malformed hread hpattern hstop => cases hresult
  | @legible text b reference deeds result hread hpattern hall hcheck hrest =>
    cases result with
    | error f => cases hresult
    | ok m =>
      obtain rfl := Except.ok.inj hresult
      obtain ⟨hfile, hlanguage, -⟩ := Bundle.eq_of_read hall
      obtain ⟨report, rfl⟩ := Bundle.eq_of_check hcheck
      have hothers : Tally t.settings.fatal _ deeds m := hrest.tally fun language tree deeds n h => h.tally
      have hown : Tally t.settings.fatal [(some base, none)] [t.reported { b with report }]
          (t.counted { b with report }) := .reported t hfile hlanguage
      rw [Settings.baseRoster, ← List.singleton_append, List.map_eq_flatMap]
      exact hown.append hothers

end Courses

/-! ### Failures -/

/-- Why a run stops with a failure in a tree. -/
inductive Stopped (s : Settings) (directory : Location) (tree : Tree) : Failure → Prop where
  | apart {f : Failure} (hload : f.loadError? = none) : Stopped s directory tree f
  | translation {path : String} {e : FileError} (hread : tree.read directory path = .error e) :
      Stopped s directory tree (.translationNotLoaded path (.unreadable e))
  | reference {base : String} {e : LoadError} (hbase : base ∈ s.files) (he : e.isMalformed = false) :
      Stopped s directory tree (.referenceNotLoaded base e)
  | malformed {base text : String} {stop : Stop} (hbase : base ∈ s.files)
      (hread : tree.read directory base = .ok text)
      (hstop : (Reading.ofText s.deferralMarker text).2 = some stop) :
      Stopped s directory tree (.referenceNotLoaded base (.malformed base stop))

/-- The failure is due to a base file with a line that cannot be read. -/
def Failure.IsMalformedReference (s : Settings) (directory : Location) (tree : Tree) (f : Failure) : Prop :=
  ∃ base ∈ s.files, ∃ text stop, tree.read directory base = .ok text ∧
    (Reading.ofText s.deferralMarker text).2 = some stop ∧ f = .referenceNotLoaded base (.malformed base stop)

theorem Stopped.isMalformed_iff {s : Settings} {directory : Location} {tree : Tree} {f : Failure}
    (h : Stopped s directory tree f) : f.isMalformed = true ↔ f.IsMalformedReference s directory tree := by
  constructor
  · intro hmalformed
    cases h with
    | apart hload =>
      rw [Failure.isMalformed, hload] at hmalformed
      cases hmalformed
    | translation hread => cases hmalformed
    | reference hbase he => exact absurd hmalformed (Bool.eq_false_iff.1 he)
    | malformed hbase hread hstop => exact ⟨_, hbase, _, _, hread, hstop, rfl⟩
  · rintro ⟨base, -, text, stop, -, -, rfl⟩
    rfl

theorem Stopped.isMalformed_translation {s : Settings} {directory : Location} {tree : Tree} {path : String}
    {e : LoadError} (h : Stopped s directory tree (.translationNotLoaded path e)) : e.isMalformed = false := by
  cases h with
  | apart hload => cases hload
  | translation hread => rfl

section Courses

variable {t : Task} {directory : Location} {reference b : Bundle} {base language path : String} {tree : Tree}
  {deeds : List Deed} {f : Failure}

theorem UsableCourse.stopped (h : UsableCourse t directory reference path tree b deeds (.error f)) :
    f.loadError? = none := by
  cases h with
  | unwritten hcheck hupdate hwrite => rfl

theorem TranslationCourse.stopped
    (h : TranslationCourse t directory reference base language tree deeds (.error f)) :
    Stopped t.settings directory (treeAfter directory tree deeds) f := by
  cases h with
  | nameless hpath => exact .apart rfl
  | uncreated hpath habsent hcreate hwrite => exact .apart rfl
  | created hpath habsent hcreate hwrite hrest => exact .apart hrest.stopped
  | unreadable hpath hpresent hread => exact .translation hread
  | legible hpath hread hall hrest => exact .apart hrest.stopped

theorem Successive.stopped {α : Type} {step : α → Tree → List Deed → Except Failure Nat → Prop}
    {P : Tree → Failure → Prop} {as : List α}
    (hstep : ∀ a ∈ as, ∀ tree deeds f, step a tree deeds (.error f) → P (treeAfter directory tree deeds) f)
    (h : Successive directory step as tree deeds (.error f)) : P (treeAfter directory tree deeds) f := by
  generalize hresult : Except.error f = result at h
  induction h with
  | nil => cases hresult
  | @next a rest tree deeds others n result hfirst hrest ih =>
    cases result with
    | ok m => cases hresult
    | error e =>
      rw [treeAfter_append]
      exact ih (fun b hb => hstep b (List.mem_cons_of_mem a hb)) hresult
  | @stop a rest tree deeds e hfirst =>
    rw [Except.error.inj hresult]
    exact hstep a List.mem_cons_self tree deeds e hfirst

theorem BaseCourse.stopped (hbase : base ∈ t.settings.files)
    (h : BaseCourse t directory base tree deeds (.error f)) :
    Stopped t.settings directory (treeAfter directory tree deeds) f := by
  generalize hresult : Except.error f = result at h
  cases h with
  | missing habsent =>
    rw [Except.error.inj hresult]
    exact .reference hbase rfl
  | unreadable hpresent hread =>
    rw [Except.error.inj hresult]
    exact .reference hbase rfl
  | patternless hread hfault =>
    rw [Except.error.inj hresult]
    exact .reference hbase rfl
  | malformed hread hpattern hstop =>
    obtain ⟨hfile, -⟩ := Bundle.eq_of_read hstop
    rw [Except.error.inj hresult, Bundle.sourceName, hfile]
    refine .malformed hbase hread ?_
    exact congrArg Prod.snd hstop
  | @legible text b reference deeds result hread hpattern hall hcheck hrest =>
    -- Only a turn can have failed, and a turn never fails on a reference.
    cases result with
    | ok m => cases hresult
    | error e =>
      have hstopped : Stopped t.settings directory (treeAfter directory tree deeds) e :=
        hrest.stopped fun language _ tree deeds f h => h.stopped
      rw [Except.error.inj hresult]
      exact hstopped

end Courses

/-! ### The command -/

section Project

variable {color : Bool} {s : Settings} {source : Option String} {directory : Location} {tree : Tree}
  {deeds : List Deed}

theorem ProjectCourse.tally {status : ExitStatus}
    (h : ProjectCourse color s source directory tree deeds (.ok status)) :
    ∃ n, status = .ofErrors n ∧ Tally s.fatal s.roster deeds n := by
  generalize hresult : Except.ok status = result at h
  cases h with
  | invalid hfault => cases hresult
  | idle hvalid hfiles => cases hresult
  | @checked suite deeds result hvalid hfiles hsuite hrest =>
    cases result with
    | error f => cases hresult
    | ok n =>
      have htally : Tally s.fatal s.roster deeds n := hrest.tally fun base tree deeds n h => BaseCourse.tally h
      exact ⟨n, Except.ok.inj hresult, .cons rfl (.cons rfl htally)⟩

theorem ProjectCourse.stopped {f : Failure}
    (h : ProjectCourse color s source directory tree deeds (.error f)) :
    Stopped s directory (treeAfter directory tree deeds) f := by
  generalize hresult : Except.error f = result at h
  cases h with
  | invalid hfault =>
    rw [Except.error.inj hresult]
    exact .apart rfl
  | idle hvalid hfiles =>
    rw [Except.error.inj hresult]
    exact .apart rfl
  | @checked suite deeds result hvalid hfiles hsuite hrest =>
    cases result with
    | ok n => cases hresult
    | error e =>
      have hstopped : Stopped s directory (treeAfter directory tree deeds) e :=
        hrest.stopped fun base hbase tree deeds f h => h.stopped hbase
      rw [Except.error.inj hresult]
      exact hstopped

/-- A report on a translation that cannot be used has one error and no warnings. -/
theorem ProjectCourse.findings_of_isUnusable {result : Except Failure ExitStatus}
    (h : ProjectCourse color s source directory tree deeds result) {before after : List Deed} {u : Utterance}
    {b : Bundle} {language : String} (hsplit : deeds = before ++ .said u :: after) (hevent : u.event = .report b)
    (hlanguage : b.language = some language) :
    ∃ path, b.file = some path ∧
      (s.IsUnusable (before.foldl (Stage.after directory) (.initial tree)).start directory path →
        b.report.errors = 1 ∧ b.report.warnings = 0) := by
  obtain ⟨p, event⟩ := u
  obtain rfl : event = .report b := hevent
  obtain ⟨-, hreport⟩ := h.allows before _ after hsplit
  rw [Settings.AllowsReport, hlanguage] at hreport
  obtain ⟨reference, path, -, -, hfile, -, hunusable⟩ := hreport
  exact ⟨path, hfile, hunusable⟩

theorem ProjectCourse.printer_fatal {result : Except Failure ExitStatus}
    (h : ProjectCourse color s source directory tree deeds result) (u : Utterance) (hu : .said u ∈ deeds)
    (b : Bundle) (hevent : u.event = .report b) : u.printer.fatal = s.fatal := by
  obtain ⟨p, event⟩ := u
  obtain rfl : event = .report b := hevent
  obtain ⟨before, after, hsplit⟩ := List.append_of_mem hu
  exact (h.allows before _ after hsplit).1

end Project

theorem documents_eq (deeds : List Deed) : documents deeds = (utterances deeds).filterMap Utterance.document? := by
  rw [documents, utterances, List.filterMap_filterMap]
  rfl

theorem mem_utterances {deeds : List Deed} {u : Utterance} : u ∈ utterances deeds ↔ .said u ∈ deeds := by
  rw [utterances, List.mem_filterMap]
  constructor
  · rintro ⟨d, hd, hu⟩
    cases d with
    | wrote path text => cases hu
    | said v => exact Option.some.inj hu ▸ hd
  · exact fun h => ⟨_, h, rfl⟩

theorem sum_counted_eq_countP (bundles : List Bundle) (fatal : Bool) :
    (bundles.map fun b => b.report.counted fatal).sum =
      (bundles.flatMap fun b => b.report.findings).countP fun f => fatal || f.severity = .error := by
  rw [List.countP_flatMap]
  exact congrArg List.sum (List.map_congr_left fun b _ => b.report.counted_eq_countP fatal)

/-- The errors that some documents count are none exactly if each is printed as one that does not fail. -/
theorem sum_counted_eq_zero_iff {deeds : List Deed} {fatal : Bool}
    (hprinter : ∀ u, .said u ∈ deeds → ∀ b, u.event = .report b → u.printer.fatal = fatal) :
    ((documents deeds).map fun b => b.report.counted fatal).sum = 0 ↔
      ∀ u ∈ utterances deeds, ∀ b, u.event = .report b → u.printer.fails b = false := by
  rw [List.sum_eq_zero_iff_forall_eq_nat, List.forall_mem_map]
  have hfails : ∀ u, .said u ∈ deeds → ∀ b, u.event = .report b →
      (u.printer.fails b = false ↔ b.report.counted fatal = 0) := by
    intro u hu b hb
    rw [Printer.fails, Report.fails, hprinter u hu b hb, decide_eq_false_iff_not, Nat.pos_iff_ne_zero, not_not]
  constructor
  · intro h u hu b hb
    have hmem := mem_utterances.1 hu
    refine (hfails u hmem b hb).2 (h b ?_)
    rw [documents_eq, List.mem_filterMap]
    exact ⟨u, hu, by rw [Utterance.document?, hb]⟩
  · intro h b hb
    rw [documents_eq, List.mem_filterMap] at hb
    obtain ⟨u, hu, hdocument⟩ := hb
    have hevent : u.event = .report b := by
      rw [Utterance.document?] at hdocument
      split at hdocument
      · rename_i b' hb'
        rw [hb', Option.some.inj hdocument]
      · cases hdocument
    exact (hfails u (mem_utterances.1 hu) b hevent).1 (h u hu b hevent)

namespace ExitStatus

theorem ofErrors_eq_success_iff (n : Nat) : ofErrors n = success ↔ n = 0 := by
  rw [ofErrors]
  split <;> simp [*]

theorem code_of_eq_success {status : ExitStatus} (h : status = success) : status.code = 0 := by
  rw [h]
  rfl

theorem ofErrors_of_ne {n : Nat} (h : n ≠ 0) :
    ofErrors n = failure n ∧ (ofErrors n).code = 10 + min n 100 ∧ 11 ≤ (ofErrors n).code ∧
      (ofErrors n).code ≤ 110 := by
  rw [ofErrors, if_neg h]
  have hcode : (failure n).code = 10 + min n 100 := rfl
  refine ⟨rfl, hcode, ?_, ?_⟩ <;> omega

theorem code_ofFailure (f : Failure) : (ofFailure f).code = if f.isMalformed = true then 3 else 2 := by
  rw [ofFailure]
  split <;> rfl

theorem code_ofFailure_eq_three_iff (f : Failure) : (ofFailure f).code = 3 ↔ f.isMalformed = true := by
  rw [code_ofFailure]
  split <;> simp [*]

theorem code_ofFailure_of_ne {f : Failure} (h : (ofFailure f).code ≠ 3) : (ofFailure f).code = 2 := by
  rw [code_ofFailure, if_neg fun hmalformed => h ((code_ofFailure_eq_three_iff f).2 hmalformed)]

end ExitStatus

section Request

variable {r : CheckRequest} {color : Bool} {s : Settings} {directory : Location} {tree : Tree} {deeds : List Deed}

theorem CheckCourse.isValid {status : ExitStatus} (h : CheckCourse r color directory tree deeds (.ok status))
    (hs : r.settingsOn? tree directory = some s) : s.IsValid := by
  obtain ⟨loaded, hload, rfl⟩ := CheckRequest.exists_loadedOn hs
  generalize hresult : Except.ok status = result at h
  cases h with
  | unsettled hfailed => cases hresult
  | settled hloaded hrest =>
    obtain rfl := Except.ok.inj (hload.symm.trans hloaded)
    cases hrest with
    | invalid hfault => cases hresult
    | idle hvalid hfiles => cases hresult
    | checked hvalid hfiles hsuite hrest => exact hvalid

theorem CheckCourse.tally {status : ExitStatus} (h : CheckCourse r color directory tree deeds (.ok status))
    (hs : r.settingsOn? tree directory = some s) : ∃ n, status = .ofErrors n ∧ Tally s.fatal s.roster deeds n := by
  obtain ⟨loaded, hload, rfl⟩ := CheckRequest.exists_loadedOn hs
  cases h with
  | settled hloaded hrest =>
    obtain rfl := Except.ok.inj (hload.symm.trans hloaded)
    exact hrest.tally

end Request

/-- The documents that a run has reported. -/
def World.documents (w : World) : List Bundle := w.said.filterMap Utterance.document?

/-- What their reports count. -/
def World.counted (w : World) (fatal : Bool) : Nat := (w.documents.map fun b => b.report.counted fatal).sum

namespace Command

section Ends

variable {r : CheckRequest} {color : Bool} {tree : Tree} {directory : Location} {s : Settings} {deeds : List Deed}

theorem isValid_of_ends (hs : r.settingsOn? tree directory = some s)
    (h : ((check r).run color tree directory).failure = none) : s.IsValid := by
  obtain ⟨deeds, status, hcourse⟩ := exists_course_of_ends h
  exact hcourse.isValid hs

theorem documents_of_course {result : Except Failure ExitStatus}
    (h : CheckCourse r color directory tree deeds result) :
    ((check r).run color tree directory).world.documents = documents deeds := by
  rw [run_of_course h, outcomeOf_world, documents_eq]
  rfl

theorem status_of_course {status : ExitStatus} (h : CheckCourse r color directory tree deeds (.ok status))
    (hs : r.settingsOn? tree directory = some s) :
    ((check r).run color tree directory).status =
      .ofErrors (((check r).run color tree directory).world.counted s.fatal) := by
  obtain ⟨n, rfl, htally⟩ := h.tally hs
  rw [World.counted, documents_of_course h, htally.sum_eq, run_of_course h]
  rfl

end Ends

/-- A check that comes to its end has the status of the errors in what it has reported, each base file and
each translation once. A check that fails has another one, which tells a malformed reference from the rest. -/
theorem verdict_of_check (r : CheckRequest) (color : Bool) (tree : Tree) (directory : Location) :
    let outcome := (check r).run color tree directory
    let journal := (check r).journal color tree directory
    outcome.world = journal.world ∧
    match outcome.failure with
    | none => ∃ s, r.settingsOn? tree directory = some s ∧
        let reports := outcome.world.said.filterMap Utterance.document?
        let n := (reports.flatMap fun b => b.report.findings).countP fun f => s.fatal || f.severity = .error
        reports.map (fun b => (b.file, b.language)) = s.roster ∧
        (∀ before u after b language, journal.deeds = before ++ .said u :: after → u.event = .report b →
          b.language = some language → ∃ path, b.file = some path ∧
            (s.IsUnusable (before.foldl (Stage.after directory) (.initial tree)).start directory path →
              b.report.errors = 1 ∧ b.report.warnings = 0)) ∧
        (outcome.status = .success ∧ outcome.status.code = 0 ↔ n = 0) ∧
        (n = 0 ↔ ∀ u ∈ outcome.world.said, ∀ b, u.event = .report b → u.printer.fails b = false) ∧
        (n ≠ 0 → outcome.status = .failure n ∧ outcome.status.code = 10 + min n 100 ∧
          11 ≤ outcome.status.code ∧ outcome.status.code ≤ 110)
    | some f =>
        (outcome.status.code = 3 ↔ ∃ s, r.settingsOn? tree directory = some s ∧
          f.IsMalformedReference s directory outcome.world.tree) ∧
        (outcome.status.code ≠ 3 → outcome.status.code = 2) ∧
        ∀ path e, f = .translationNotLoaded path e → e.isMalformed = false := by
  intro outcome journal
  obtain ⟨deeds, result, hcourse⟩ := exists_checkCourse r color tree directory
  have hjournal : journal = ⟨treeAfter directory tree deeds, directory, deeds⟩ := journal_of_course hcourse
  have houtcome : outcome = outcomeOf result ⟨treeAfter directory tree deeds, directory, utterances deeds⟩ :=
    run_of_course hcourse
  rw [hjournal, houtcome, CheckRequest.settingsOn?_eq]
  refine ⟨outcomeOf_world _ _, ?_⟩
  cases hcourse with
  | @unsettled f hload =>
    have hapart : f.loadError? = none := (r.loadedOn_spec tree directory).1 f hload
    rw [hload]
    refine ⟨(ExitStatus.code_ofFailure_eq_three_iff f).trans (iff_of_false ?_ ?_),
      ExitStatus.code_ofFailure_of_ne, ?_⟩
    · rw [Failure.isMalformed, hapart]
      exact Bool.false_ne_true
    · rintro ⟨s, hs, -⟩
      cases hs
    · rintro path e rfl
      cases hapart
  | @settled loaded deeds result hload hrest =>
    rw [hload]
    cases result with
    | ok status =>
      obtain ⟨n, rfl, htally⟩ := hrest.tally
      refine ⟨r.apply loaded.settings, rfl, ?_⟩
      intro reports m
      have hreports : reports = documents deeds := (documents_eq deeds).symm
      have hm : m = n := by
        rw [← htally.sum_eq, sum_counted_eq_countP, ← hreports]
      rw [hm, hreports]
      refine ⟨htally.roster_eq, fun before u after b language => hrest.findings_of_isUnusable,
        (and_iff_left_of_imp ExitStatus.code_of_eq_success).trans (ExitStatus.ofErrors_eq_success_iff n), ?_,
        ExitStatus.ofErrors_of_ne⟩
      rw [← htally.sum_eq]
      exact sum_counted_eq_zero_iff hrest.printer_fatal
    | error f =>
      have hstopped := hrest.stopped
      refine ⟨((ExitStatus.code_ofFailure_eq_three_iff f).trans hstopped.isMalformed_iff).trans ⟨?_, ?_⟩,
        ExitStatus.code_ofFailure_of_ne, ?_⟩
      · exact fun h => ⟨_, rfl, h⟩
      · rintro ⟨s, hs, h⟩
        rw [← Option.some.inj hs] at h
        exact h
      · rintro path e rfl
        exact hstopped.isMalformed_translation

/-- One translation is malformed, one is missing and one has a key too many. -/
theorem verdict_of_check_three_errors :
    let r : CheckRequest :=
      { bases := ["a.properties"], languages := ["de", "fr", "it"], checks := [.danglingKeys] }
    let tree : Tree :=
      ⟨[(["a.properties"], .file (.text "k = v")), (["a_de.properties"], .file (.text "l")),
        (["a_it.properties"], .file (.text "l = w"))]⟩
    let outcome := (check r).run false tree []
    outcome.status = .failure 3 ∧ outcome.status.code = 13 ∧
      (outcome.world.said.filterMap Utterance.document?).map (fun b => (b.file, b.report.errors)) =
        [(some "a.properties", 0), (some "a_de.properties", 1), (some "a_fr.properties", 1),
          (some "a_it.properties", 1)] := by
  intro r tree outcome
  have hfailure : outcome.failure = none := by decide +kernel
  have hcount : ∀ fatal, ((outcome.world.said.filterMap Utterance.document?).flatMap fun b =>
      b.report.findings).countP (fun f => fatal || f.severity = .error) = 3 := by decide +kernel
  have hreports : (outcome.world.said.filterMap Utterance.document?).map (fun b => (b.file, b.report.errors)) =
      [(some "a.properties", 0), (some "a_de.properties", 1), (some "a_fr.properties", 1),
        (some "a_it.properties", 1)] := by decide +kernel
  clear_value r tree
  obtain ⟨-, hverdict⟩ := verdict_of_check r false tree []
  rw [hfailure] at hverdict
  obtain ⟨s, -, -, -, -, -, hstatus⟩ := hverdict
  rw [hcount] at hstatus
  obtain ⟨hthree, hcode, -⟩ := hstatus (by decide)
  exact ⟨hthree, hcode, hreports⟩

end Command

end BundleCheck
