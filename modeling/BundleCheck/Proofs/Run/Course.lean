import BundleCheck.Proofs.Run.Journal
import BundleCheck.Proofs.Run.Refinement

/-!
# The course of a check

What a check does at a file depends on the tree at that moment and on nothing that was done before. The
rules below say so one file at a time: which deeds are done there, and with what result. A check takes the
course that the rules give, on every host that records deeds, and there is always one. That there is no pattern
for deferred entries shows at the first base file that can be read, so the rules for translations do not ask
for one.
-/

namespace BundleCheck

namespace Task

def noted (t : Task) (text : String) : Deed := .said ⟨t.printer, .note text⟩

def reported (t : Task) (b : Bundle) : Deed := .said ⟨t.printer, .report b⟩

/-- How many errors a report counts. -/
def counted (t : Task) (b : Bundle) : Nat := b.report.counted t.settings.fatal

end Task

/-! ### Rules -/

section Rules

variable (t : Task) (directory : Location)

/-- How a usable translation is dealt with. -/
inductive UsableCourse (reference : Bundle) (path : String) (tree : Tree) (b : Bundle) :
    List Deed → Except Failure Nat → Prop where
  | checked {b' : Bundle} (hcheck : b.check (some reference) t.suite = .ok b')
      (hupdate : t.settings.update = false) :
      UsableCourse reference path tree b [t.reported b'] (.ok (t.counted b'))
  | updated {b' : Bundle} {tree' : Tree} (hcheck : b.check (some reference) t.suite = .ok b')
      (hupdate : t.settings.update = true)
      (hwrite : tree.write directory path (b'.update t.settings reference).content.text = .ok tree') :
      UsableCourse reference path tree b
        [.wrote path (b'.update t.settings reference).content.text, t.noted ("Updated " ++ path),
          t.reported (b'.update t.settings reference)]
        (.ok (t.counted (b'.update t.settings reference)))
  | unwritten {b' : Bundle} {e : FileError} (hcheck : b.check (some reference) t.suite = .ok b')
      (hupdate : t.settings.update = true)
      (hwrite : tree.write directory path (b'.update t.settings reference).content.text = .error e) :
      UsableCourse reference path tree b [.wrote path (b'.update t.settings reference).content.text]
        (.error (.fileNotWritten path (.unwritable e)))

/-- How the translation of a base file into one language is dealt with. -/
inductive TranslationCourse (reference : Bundle) (base language : String) (tree : Tree) :
    List Deed → Except Failure Nat → Prop where
  | nameless {fault : BaseFault} (hpath : t.settings.languageFile base language = .error fault) :
      TranslationCourse reference base language tree [] (.error (.invalidBase fault))
  | missing {path : String} {b : Bundle} (hpath : t.settings.languageFile base language = .ok path)
      (habsent : tree.isPresent directory path = false) (hcreate : t.settings.create = false)
      (hb : (Opened.refused { Bundle.ofLanguage language with file := some path } fileLabel
        (LoadError.missing path).message).bundle = b) :
      TranslationCourse reference base language tree [t.reported b] (.ok (t.counted b))
  | uncreated {path : String} {e : FileError} (hpath : t.settings.languageFile base language = .ok path)
      (habsent : tree.isPresent directory path = false) (hcreate : t.settings.create = true)
      (hwrite : tree.write directory path (Bundle.createFrom t.settings reference language).content.text =
        .error e) :
      TranslationCourse reference base language tree
        [.wrote path (Bundle.createFrom t.settings reference language).content.text]
        (.error (.translationNotCreated path (.unwritable e)))
  | created {path : String} {tree' : Tree} {deeds : List Deed} {result : Except Failure Nat}
      (hpath : t.settings.languageFile base language = .ok path)
      (habsent : tree.isPresent directory path = false) (hcreate : t.settings.create = true)
      (hwrite : tree.write directory path (Bundle.createFrom t.settings reference language).content.text =
        .ok tree')
      (hrest : UsableCourse t directory reference path tree'
        { Bundle.createFrom t.settings reference language with file := some path } deeds result) :
      TranslationCourse reference base language tree
        (.wrote path (Bundle.createFrom t.settings reference language).content.text ::
          t.noted ("Created " ++ path) :: deeds) result
  | unreadable {path : String} {e : FileError} (hpath : t.settings.languageFile base language = .ok path)
      (hpresent : tree.isPresent directory path = true) (hread : tree.read directory path = .error e) :
      TranslationCourse reference base language tree [] (.error (.translationNotLoaded path (.unreadable e)))
  | malformed {path text : String} {stop : Stop} {half b : Bundle}
      (hpath : t.settings.languageFile base language = .ok path)
      (hread : tree.read directory path = .ok text)
      (hstop : { Bundle.ofLanguage language with file := some path }.read t.settings text = (half, some stop))
      (hb : (Opened.refused half malformedLabel (LoadError.malformed half.sourceName stop).message).bundle = b) :
      TranslationCourse reference base language tree [t.reported b] (.ok (t.counted b))
  | legible {path text : String} {b : Bundle} {deeds : List Deed} {result : Except Failure Nat}
      (hpath : t.settings.languageFile base language = .ok path)
      (hread : tree.read directory path = .ok text)
      (hall : { Bundle.ofLanguage language with file := some path }.read t.settings text = (b, none))
      (hrest : UsableCourse t directory reference path tree b deeds result) :
      TranslationCourse reference base language tree deeds result

/-- Steps that are taken one after the other, up to the first that fails. -/
inductive Successive {α : Type} (step : α → Tree → List Deed → Except Failure Nat → Prop) :
    List α → Tree → List Deed → Except Failure Nat → Prop where
  | nil {tree : Tree} : Successive step [] tree [] (.ok 0)
  | next {a : α} {rest : List α} {tree : Tree} {deeds others : List Deed} {n : Nat} {result : Except Failure Nat}
      (hstep : step a tree deeds (.ok n))
      (hrest : Successive step rest (treeAfter directory tree deeds) others result) :
      Successive step (a :: rest) tree (deeds ++ others) (result.map (n + ·))
  | stop {a : α} {rest : List α} {tree : Tree} {deeds : List Deed} {f : Failure}
      (hstep : step a tree deeds (.error f)) : Successive step (a :: rest) tree deeds (.error f)

/-- How a base file and its translations are dealt with. -/
inductive BaseCourse (base : String) (tree : Tree) : List Deed → Except Failure Nat → Prop where
  | missing (habsent : tree.isPresent directory base = false) :
      BaseCourse base tree [] (.error (.referenceNotLoaded base (.missing base)))
  | unreadable {e : FileError} (hpresent : tree.isPresent directory base = true)
      (hread : tree.read directory base = .error e) :
      BaseCourse base tree [] (.error (.referenceNotLoaded base (.unreadable e)))
  | patternless {text : String} {fault : Pattern.Fault} (hread : tree.read directory base = .ok text)
      (hfault : Deferral.pattern t.settings.deferralMarker = .error fault) :
      BaseCourse base tree [] (.error (.referenceNotLoaded base (.pattern fault)))
  | malformed {text : String} {stop : Stop} {half : Bundle} (hread : tree.read directory base = .ok text)
      (hpattern : Deferral.HasPattern t.settings.deferralMarker)
      (hstop : { Bundle.empty with file := some base }.read t.settings text = (half, some stop)) :
      BaseCourse base tree [] (.error (.referenceNotLoaded base (.malformed half.sourceName stop)))
  | legible {text : String} {b reference : Bundle} {deeds : List Deed} {result : Except Failure Nat}
      (hread : tree.read directory base = .ok text) (hpattern : Deferral.HasPattern t.settings.deferralMarker)
      (hall : { Bundle.empty with file := some base }.read t.settings text = (b, none))
      (hcheck : b.check none t.suite = .ok reference)
      (hrest : Successive directory (TranslationCourse t.indented directory reference base) t.settings.languages
        tree deeds result) :
      BaseCourse base tree (t.reported reference :: deeds) (result.map (t.counted reference + ·))

end Rules

/-- The printer of a run under some settings. -/
def Settings.printer (s : Settings) (color : Bool) : Printer :=
  { quiet := s.quiet, verbose := s.verbose, fatal := s.fatal, color := color && s.color }

/-- How a project is dealt with. -/
inductive ProjectCourse (color : Bool) (s : Settings) (source : Option String) (directory : Location)
    (tree : Tree) : List Deed → Except Failure ExitStatus → Prop where
  | invalid {fault : SettingsFault} (hfault : s.fault? = some fault) :
      ProjectCourse color s source directory tree [] (.error (.invalidSettings fault))
  | idle (hvalid : s.IsValid) (hfiles : s.files = []) :
      ProjectCourse color s source directory tree [] (.error .noBaseFiles)
  | checked {suite : Suite} {deeds : List Deed} {result : Except Failure Nat} (hvalid : s.IsValid)
      (hfiles : s.files ≠ []) (hsuite : s.suite = .ok suite)
      (hrest : Successive directory (BaseCourse ⟨s, suite, s.printer color⟩ directory) s.files tree deeds result) :
      ProjectCourse color s source directory tree
        (.said ⟨s.printer color, .note (sourceNote source)⟩ ::
          .said ⟨s.printer color, .note (suiteNote suite)⟩ :: deeds)
        (result.map .ofErrors)

/-! ### Checks take their course -/

section Takes

variable {σ : Type} [Host (StateM σ)] [Records σ] {w : σ} {t : Task} {deeds : List Deed}

theorem takes_note (t : Task) (text : String) (w : σ) :
    Takes (t.note text : ExceptT Failure (StateM σ) Unit) w [t.noted text] (.ok ()) :=
  takes_say t.printer (.note text) w

theorem takes_report (t : Task) (b : Bundle) (w : σ) :
    Takes (t.report b : ExceptT Failure (StateM σ) Nat) w [t.reported b] (.ok (t.counted b)) :=
  (takes_say t.printer (.report b) w).bind (.pure _ _)

theorem takes_check {b b' : Bundle} {reference : Option Bundle} (h : b.check reference t.suite = .ok b') (w : σ) :
    Takes (t.check b reference : ExceptT Failure (StateM σ) Bundle) w [] (.ok b') := by
  rw [Task.check, h]
  exact .pure b' w

theorem takes_load_missing {path : String} (s : Settings) (b : Bundle)
    (h : (Records.tree w).isPresent (Records.directory w) path = false) :
    Takes (b.load s path : ExceptT Failure (StateM σ) _) w [] (.ok (b, some (.missing path))) :=
  (takes_isPresent h).ask (.pure _ w)

theorem takes_load_unreadable {path : String} {e : FileError} (s : Settings) (b : Bundle)
    (hpresent : (Records.tree w).isPresent (Records.directory w) path = true)
    (h : (Records.tree w).read (Records.directory w) path = .error e) :
    Takes (b.load s path : ExceptT Failure (StateM σ) _) w [] (.ok (b, some (.unreadable e))) :=
  (takes_isPresent hpresent).ask ((takes_read h).ask (.pure _ w))

theorem takes_load_parse {path text : String} (s : Settings) (b : Bundle)
    (h : (Records.tree w).read (Records.directory w) path = .ok text) :
    let after := { b with file := some path }.parse s text
    Takes (b.load s path : ExceptT Failure (StateM σ) _) w []
      (.ok (after.1, after.2.map (.ofReadError after.1.sourceName))) :=
  (takes_isPresent (Tree.isPresent_of_read h)).ask ((takes_read h).ask (.pure _ w))

theorem takes_load {path text : String} {s : Settings} {b b' : Bundle} {stop : Option Stop}
    (hpattern : Deferral.HasPattern s.deferralMarker)
    (h : (Records.tree w).read (Records.directory w) path = .ok text)
    (hread : { b with file := some path }.read s text = (b', stop)) :
    Takes (b.load s path : ExceptT Failure (StateM σ) _) w [] (.ok (b', stop.map (.malformed b'.sourceName))) := by
  have hload := takes_load_parse s b h
  rw [Bundle.parse_of_hasPattern hpattern, hread] at hload
  simp only [Option.map_map] at hload
  exact hload

/-- A bundle is saved to the file that it came from. -/
theorem takes_save {b : Bundle} {path : String} {tree' : Tree} (hfile : b.file = some path)
    (hwrite : (Records.tree w).write (Records.directory w) path b.content.text = .ok tree') :
    Takes (b.save none : ExceptT Failure (StateM σ) _) w [.wrote path b.content.text] (.ok (.ok ())) := by
  rw [Bundle.save, hfile]
  exact (takes_write hwrite).bind (.pure _ _)

theorem takes_save_error {b : Bundle} {path : String} {e : FileError} (hfile : b.file = some path)
    (hwrite : (Records.tree w).write (Records.directory w) path b.content.text = .error e) :
    Takes (b.save none : ExceptT Failure (StateM σ) _) w [.wrote path b.content.text]
      (.ok (.error (.unwritable e))) := by
  rw [Bundle.save, hfile]
  exact (takes_write hwrite).bind (.pure _ _)

section Translations

variable (hpattern : Deferral.HasPattern t.settings.deferralMarker)

include hpattern

theorem takes_updateTranslation {reference b : Bundle} {path : String} {tree' : Tree} (hfile : b.file = some path)
    (hwrite : (Records.tree w).write (Records.directory w) path (b.update t.settings reference).content.text =
      .ok tree') :
    Takes (updateTranslation t reference b path : ExceptT Failure (StateM σ) Bundle) w
      [.wrote path (b.update t.settings reference).content.text, t.noted ("Updated " ++ path)]
      (.ok (b.update t.settings reference)) := by
  rw [updateTranslation, Bundle.rebuild_of_hasPattern hpattern]
  refine (takes_save (b := b.update t.settings reference) hfile hwrite).bind ?_
  exact (takes_note t ("Updated " ++ path) _).bind (.pure _ _)

theorem takes_updateTranslation_error {reference b : Bundle} {path : String} {e : FileError} (hfile : b.file = some path)
    (hwrite : (Records.tree w).write (Records.directory w) path (b.update t.settings reference).content.text =
      .error e) :
    Takes (updateTranslation t reference b path : ExceptT Failure (StateM σ) Bundle) w
      [.wrote path (b.update t.settings reference).content.text] (.error (.fileNotWritten path (.unwritable e))) := by
  rw [updateTranslation, Bundle.rebuild_of_hasPattern hpattern]
  exact (takes_save_error (b := b.update t.settings reference) hfile hwrite).bind (.throw _ _)

theorem takes_checkOpened {reference b : Bundle} {path : String} {result : Except Failure Nat}
    (hfile : b.file = some path)
    (h : UsableCourse t (Records.directory w) reference path (Records.tree w) b deeds result) :
    Takes (do
      let b ← t.check b (some reference)
      let b ← if t.settings.update then updateTranslation t reference b path else Pure.pure b
      t.report b : ExceptT Failure (StateM σ) Nat) w deeds result := by
  cases h with
  | checked hcheck hupdate =>
    refine (takes_check hcheck w).ask ?_
    simp only [hupdate, Bool.false_eq_true, if_false]
    exact takes_report t _ w
  | updated hcheck hupdate hwrite =>
    refine (takes_check hcheck w).ask ?_
    simp only [hupdate, if_true]
    exact (takes_updateTranslation hpattern ((Bundle.check_file hcheck).trans hfile) hwrite).bind (takes_report t _ _)
  | unwritten hcheck hupdate hwrite =>
    refine (takes_check hcheck w).ask ?_
    simp only [hupdate, if_true]
    exact (takes_updateTranslation_error hpattern ((Bundle.check_file hcheck).trans hfile) hwrite).bind_error _

theorem takes_createTranslation {reference : Bundle} {language path : String} {tree' : Tree}
    (hwrite : (Records.tree w).write (Records.directory w) path
      (Bundle.createFrom t.settings reference language).content.text = .ok tree') :
    Takes (createTranslation t reference language path : ExceptT Failure (StateM σ) Opened) w
      [.wrote path (Bundle.createFrom t.settings reference language).content.text, t.noted ("Created " ++ path)]
      (.ok ⟨{ Bundle.createFrom t.settings reference language with file := some path }, true⟩) := by
  rw [createTranslation, Bundle.create_of_hasPattern hpattern]
  refine (takes_save (b := { Bundle.createFrom t.settings reference language with file := some path }) rfl hwrite).bind ?_
  exact (takes_note t ("Created " ++ path) _).bind (.pure _ _)

theorem takes_createTranslation_error {reference : Bundle} {language path : String} {e : FileError}
    (hwrite : (Records.tree w).write (Records.directory w) path
      (Bundle.createFrom t.settings reference language).content.text = .error e) :
    Takes (createTranslation t reference language path : ExceptT Failure (StateM σ) Opened) w
      [.wrote path (Bundle.createFrom t.settings reference language).content.text]
      (.error (.translationNotCreated path (.unwritable e))) := by
  rw [createTranslation, Bundle.create_of_hasPattern hpattern]
  exact (takes_save_error (b := { Bundle.createFrom t.settings reference language with file := some path }) rfl
    hwrite).bind (.throw _ _)

theorem takes_checkTranslation {reference : Bundle} {base language : String} {result : Except Failure Nat}
    (h : TranslationCourse t (Records.directory w) reference base language (Records.tree w) deeds result) :
    Takes (checkTranslation t reference base language : ExceptT Failure (StateM σ) Nat) w deeds result := by
  cases h with
  | nameless hpath =>
    rw [checkTranslation, hpath]
    exact .throw _ w
  | @missing path b hpath habsent hcreate hb =>
    have hopen : Takes (openTranslation t reference language path : ExceptT Failure (StateM σ) Opened) w []
        (.ok ⟨b, false⟩) := by
      refine (takes_isPresent habsent).ask ?_
      simp only [hcreate, Bool.false_eq_true, if_false]
      rw [← hb]
      exact .pure _ w
    rw [checkTranslation, hpath]
    exact hopen.ask (takes_report t b w)
  | uncreated hpath habsent hcreate hwrite =>
    rw [checkTranslation, hpath]
    refine ((takes_isPresent habsent).ask ?_).bind_error _
    simp only [hcreate, Bool.false_eq_true, if_false, if_true]
    exact takes_createTranslation_error hpattern hwrite
  | @created path tree' deeds result hpath habsent hcreate hwrite hrest =>
    have hopen : Takes (openTranslation t reference language path : ExceptT Failure (StateM σ) Opened) w
        [.wrote path (Bundle.createFrom t.settings reference language).content.text,
          t.noted ("Created " ++ path)]
        (.ok ⟨{ Bundle.createFrom t.settings reference language with file := some path }, true⟩) := by
      refine (takes_isPresent habsent).ask ?_
      simp only [hcreate, Bool.false_eq_true, if_false, if_true]
      exact takes_createTranslation hpattern hwrite
    rw [checkTranslation, hpath]
    refine hopen.bind (takes_checkOpened hpattern rfl ?_)
    rw [Records.directory_foldl, Records.tree_foldl, treeAfter_wrote_ok hwrite]
    exact hrest
  | unreadable hpath hpresent hread =>
    rw [checkTranslation, hpath]
    refine ((takes_isPresent hpresent).ask ((takes_load_unreadable _ _ hpresent hread).ask ?_)).bind_error _
    exact .throw _ w
  | @malformed path text stop half b hpath hread hstop hb =>
    have hopen : Takes (openTranslation t reference language path : ExceptT Failure (StateM σ) Opened) w []
        (.ok ⟨b, false⟩) := by
      refine (takes_isPresent (Tree.isPresent_of_read hread)).ask ((takes_load hpattern hread hstop).ask ?_)
      rw [← hb]
      exact .pure _ w
    rw [checkTranslation, hpath]
    exact hopen.ask (takes_report t b w)
  | @legible path text b deeds result hpath hread hall hrest =>
    have hopen : Takes (openTranslation t reference language path : ExceptT Failure (StateM σ) Opened) w []
        (.ok ⟨b, true⟩) :=
      (takes_isPresent (Tree.isPresent_of_read hread)).ask ((takes_load hpattern hread hall).ask (.pure _ w))
    rw [checkTranslation, hpath]
    exact hopen.ask (takes_checkOpened hpattern (Bundle.file_of_read hall) hrest)

end Translations

theorem takes_sumOver {α : Type} {step : α → ExceptT Failure (StateM σ) Nat} {directory : Location}
    {course : α → Tree → List Deed → Except Failure Nat → Prop}
    (hstep : ∀ a deeds result (w : σ), Records.directory w = directory → course a (Records.tree w) deeds result →
      Takes (step a) w deeds result) {as : List α} {tree : Tree} {result : Except Failure Nat}
    (h : Successive directory course as tree deeds result) (hdirectory : Records.directory w = directory)
    (htree : Records.tree w = tree) : Takes (sumOver step as) w deeds result := by
  induction h generalizing w with
  | nil => exact .pure 0 w
  | next hfirst _ ih =>
    rw [sumOver]
    refine (hstep _ _ _ w hdirectory (htree ▸ hfirst)).bind (Takes.map (ih ?_ ?_) _)
    · rw [Records.directory_foldl, hdirectory]
    · rw [Records.tree_foldl, hdirectory, htree]
  | stop hfirst =>
    rw [sumOver]
    exact (hstep _ _ _ w hdirectory (htree ▸ hfirst)).bind_error _

theorem takes_checkBase {base : String} {result : Except Failure Nat}
    (h : BaseCourse t (Records.directory w) base (Records.tree w) deeds result) :
    Takes (checkBase t base : ExceptT Failure (StateM σ) Nat) w deeds result := by
  cases h with
  | missing habsent =>
    rw [checkBase]
    exact (takes_load_missing _ _ habsent).ask (.throw _ w)
  | unreadable hpresent hread =>
    rw [checkBase]
    exact (takes_load_unreadable _ _ hpresent hread).ask (.throw _ w)
  | patternless hread hfault =>
    have hload := takes_load_parse t.settings Bundle.empty hread
    rw [Bundle.parse_of_error hfault] at hload
    rw [checkBase]
    exact hload.ask (.throw _ w)
  | malformed hread hpattern hstop =>
    rw [checkBase]
    exact (takes_load hpattern hread hstop).ask (.throw _ w)
  | legible hread hpattern hall hcheck hrest =>
    rw [checkBase]
    refine (takes_load hpattern hread hall).ask ((takes_check hcheck w).ask ((takes_report t _ w).bind (.map ?_ _)))
    refine takes_sumOver (fun language deeds result w' hdirectory hcourse => ?_) hrest ?_ ?_
    · exact takes_checkTranslation (t := t.indented) hpattern (hdirectory ▸ hcourse)
    · rw [Records.directory_foldl]
    · rw [Records.tree_foldl]
      rfl

theorem takes_checkProject {color : Bool} {s : Settings} {source : Option String}
    {result : Except Failure ExitStatus}
    (h : ProjectCourse color s source (Records.directory w) (Records.tree w) deeds result) :
    Takes (checkProject color s source : ExceptT Failure (StateM σ) ExitStatus) w deeds result := by
  cases h with
  | invalid hfault =>
    rw [checkProject, hfault]
    exact Takes.bind_error (.throw _ w) _
  | idle hvalid hfiles =>
    rw [checkProject, show s.fault? = none from hvalid, hfiles]
    exact Takes.bind_error (.throw _ w) _
  | @checked suite deeds result hvalid hfiles hsuite hrest =>
    rw [checkProject, show s.fault? = none from hvalid, hsuite, List.isEmpty_eq_false_iff.2 hfiles]
    simp only [Bool.false_eq_true, if_false]
    refine (takes_note ⟨s, suite, s.printer color⟩ _ w).bind ((takes_note _ _ _).bind (.map ?_ _))
    refine takes_sumOver (fun base deeds result w' hdirectory hcourse => ?_) hrest ?_ ?_
    · exact takes_checkBase (hdirectory ▸ hcourse)
    · rw [Records.directory_foldl, Records.directory_foldl]
    · rw [Records.tree_foldl, Records.tree_foldl]
      rfl

end Takes

/-! ### There is always a course -/

theorem Bundle.exists_check (b : Bundle) (reference : Option Bundle) (suite : Suite) :
    ∃ b', b.check reference suite = .ok b' :=
  ⟨_, b.check_eq reference suite⟩

section Existence

variable (t : Task) (directory : Location)

theorem exists_usableCourse (reference : Bundle) (path : String) (tree : Tree) (b : Bundle) :
    ∃ deeds result, UsableCourse t directory reference path tree b deeds result := by
  obtain ⟨b', hcheck⟩ := b.exists_check (some reference) t.suite
  cases hupdate : t.settings.update with
  | false => exact ⟨_, _, .checked hcheck hupdate⟩
  | true =>
    cases hwrite : tree.write directory path (b'.update t.settings reference).content.text with
    | error e => exact ⟨_, _, .unwritten hcheck hupdate hwrite⟩
    | ok tree' => exact ⟨_, _, .updated hcheck hupdate hwrite⟩

theorem exists_translationCourse (reference : Bundle) (base language : String) (tree : Tree) :
    ∃ deeds result, TranslationCourse t directory reference base language tree deeds result := by
  cases hpath : t.settings.languageFile base language with
  | error fault => exact ⟨_, _, .nameless hpath⟩
  | ok path =>
    cases hpresent : tree.isPresent directory path with
    | false =>
      cases hcreate : t.settings.create with
      | false => exact ⟨_, _, .missing hpath hpresent hcreate rfl⟩
      | true =>
        cases hwrite : tree.write directory path (Bundle.createFrom t.settings reference language).content.text with
        | error e => exact ⟨_, _, .uncreated hpath hpresent hcreate hwrite⟩
        | ok tree' =>
          obtain ⟨deeds, result, hrest⟩ := exists_usableCourse t directory reference path tree' _
          exact ⟨_, _, .created hpath hpresent hcreate hwrite hrest⟩
    | true =>
      cases hread : tree.read directory path with
      | error e => exact ⟨_, _, .unreadable hpath hpresent hread⟩
      | ok text =>
        rcases hreading : { Bundle.ofLanguage language with file := some path }.read t.settings text with ⟨b, stop⟩
        cases stop with
        | some stop => exact ⟨_, _, .malformed hpath hread hreading rfl⟩
        | none =>
          obtain ⟨deeds, result, hrest⟩ := exists_usableCourse t directory reference path tree b
          exact ⟨_, _, .legible hpath hread hreading hrest⟩

variable {directory} in
theorem exists_successive {α : Type} {step : α → Tree → List Deed → Except Failure Nat → Prop}
    (hstep : ∀ a tree, ∃ deeds result, step a tree deeds result) (as : List α) (tree : Tree) :
    ∃ deeds result, Successive directory step as tree deeds result := by
  induction as generalizing tree with
  | nil => exact ⟨_, _, .nil⟩
  | cons a rest ih =>
    obtain ⟨deeds, result, hfirst⟩ := hstep a tree
    cases result with
    | error f => exact ⟨_, _, .stop hfirst⟩
    | ok n =>
      obtain ⟨others, result, hrest⟩ := ih (treeAfter directory tree deeds)
      exact ⟨_, _, .next hfirst hrest⟩

theorem exists_baseCourse (base : String) (tree : Tree) :
    ∃ deeds result, BaseCourse t directory base tree deeds result := by
  cases hpresent : tree.isPresent directory base with
  | false => exact ⟨_, _, .missing hpresent⟩
  | true =>
    cases hread : tree.read directory base with
    | error e => exact ⟨_, _, .unreadable hpresent hread⟩
    | ok text =>
      rcases Deferral.hasPattern_or_error t.settings.deferralMarker with hpattern | ⟨fault, hfault⟩
      · rcases hreading : { Bundle.empty with file := some base }.read t.settings text with ⟨b, stop⟩
        cases stop with
        | some stop => exact ⟨_, _, .malformed hread hpattern hreading⟩
        | none =>
          obtain ⟨reference, hcheck⟩ := b.exists_check none t.suite
          obtain ⟨deeds, result, hrest⟩ :=
            exists_successive (exists_translationCourse t.indented directory reference base) t.settings.languages tree
          exact ⟨_, _, .legible hread hpattern hreading hcheck hrest⟩
      · exact ⟨_, _, .patternless hread hfault⟩

theorem exists_projectCourse (color : Bool) (s : Settings) (source : Option String) (tree : Tree) :
    ∃ deeds result, ProjectCourse color s source directory tree deeds result := by
  cases hfault : s.fault? with
  | some fault => exact ⟨_, _, .invalid hfault⟩
  | none =>
    by_cases hfiles : s.files = []
    · exact ⟨_, _, .idle hfault hfiles⟩
    · obtain ⟨suite, hsuite⟩ := Settings.IsValid.exists_suite hfault
      obtain ⟨deeds, result, hrest⟩ :=
        exists_successive (exists_baseCourse ⟨s, suite, s.printer color⟩ directory) s.files tree
      exact ⟨_, _, .checked hfault hfiles hsuite hrest⟩

end Existence

end BundleCheck
