import BundleCheck.Proofs.Run.Course
import BundleCheck.Proofs.Run.Request

/-!
# Accounts of commands

A check looks for its settings without doing anything, and then takes the course of its project. So its
outcome and its journal can be read off that course: the one holds what the deeds have made of the tree, the
other the deeds themselves.
-/

namespace BundleCheck

/-! ### Settings -/

/-- What a host that records deeds finds in a directory or further on depends on the tree alone, and is found without
a deed. -/
theorem exists_takes_findSettings (tree : Tree) (directory : Location) (start : List Char) :
    ∃ found, ∀ {σ : Type} [Host (StateM σ)] [Records σ] (w : σ), Records.tree w = tree →
      Records.directory w = directory →
        Takes (findSettings start : ExceptT Failure (StateM σ) (Option String)) w [] (.ok found) := by
  have hstep : ∀ (d : List Char) (found : Option String),
      ∃ found', ∀ {σ : Type} [Host (StateM σ)] [Records σ] (w : σ)
        (further : ExceptT Failure (StateM σ) (Option String)), Records.tree w = tree → Records.directory w = directory →
          Takes further w [] (.ok found) → Takes (settingsAt d further) w [] (.ok found') := by
    intro d found
    cases hsettings : tree.isPresent directory (Path.entry d settingsFileName) with
    | true =>
      refine ⟨some (Path.entry d settingsFileName), fun w further htree hdirectory _ => ?_⟩
      subst htree hdirectory
      exact (takes_isPresent hsettings).ask (.pure _ w)
    | false =>
      cases hmark : tree.isPresent directory (Path.entry d repositoryMark) with
      | true =>
        refine ⟨none, fun w further htree hdirectory _ => ?_⟩
        subst htree hdirectory
        exact (takes_isPresent hsettings).ask ((takes_isPresent hmark).ask (.pure none w))
      | false =>
        refine ⟨found, fun w further htree hdirectory hfurther => ?_⟩
        subst htree hdirectory
        exact (takes_isPresent hsettings).ask ((takes_isPresent hmark).ask hfurther)
  induction start using Path.above_induction with
  | top start h =>
    obtain ⟨found, hfound⟩ := hstep start none
    refine ⟨found, fun w htree hdirectory => ?_⟩
    rw [findSettings_of_none h]
    exact hfound w (pure none) htree hdirectory (.pure none w)
  | below start parent h ih =>
    obtain ⟨further, hfurther⟩ := ih
    obtain ⟨found, hfound⟩ := hstep start further
    refine ⟨found, fun w htree hdirectory => ?_⟩
    rw [findSettings_of_some h]
    exact hfound w (findSettings parent) htree hdirectory (hfurther w htree hdirectory)

theorem exists_takes_readSettings (tree : Tree) (directory : Location) (path : String) :
    ∃ result : Except Failure Settings, (∀ f, result = .error f → f.loadError? = none) ∧
      ∀ {σ : Type} [Host (StateM σ)] [Records σ] (w : σ), Records.tree w = tree → Records.directory w = directory →
        Takes (readSettings path : ExceptT Failure (StateM σ) Settings) w [] result := by
  cases hread : tree.read directory path with
  | error e =>
    refine ⟨.error (.settingsUnreadable path e), fun f hf => Except.error.inj hf ▸ rfl, fun w htree hdirectory => ?_⟩
    subst htree hdirectory
    exact (takes_read hread).ask (.throw _ w)
  | ok text =>
    cases hsettings : Settings.ofText? text with
    | none =>
      refine ⟨.error (.settingsMalformed path), fun f hf => Except.error.inj hf ▸ rfl, fun w htree hdirectory => ?_⟩
      subst htree hdirectory
      refine (takes_read hread).ask ?_
      simp only [hsettings]
      exact .throw _ w
    | some s =>
      refine ⟨.ok s, fun f hf => (by cases hf), fun w htree hdirectory => ?_⟩
      subst htree hdirectory
      refine (takes_read hread).ask ?_
      simp only [hsettings]
      exact .pure s w

theorem exists_takes_loadSettings (tree : Tree) (directory : Location) (asked : Option String) :
    ∃ result : Except Failure LoadedSettings, (∀ f, result = .error f → f.loadError? = none) ∧
      ∀ {σ : Type} [Host (StateM σ)] [Records σ] (w : σ), Records.tree w = tree → Records.directory w = directory →
        Takes (loadSettings directory.path asked : ExceptT Failure (StateM σ) LoadedSettings) w [] result := by
  have hmap : ∀ {result : Except Failure Settings} (source : Option String),
      (∀ f, result = .error f → f.loadError? = none) →
        ∀ f, result.map (LoadedSettings.mk · source) = .error f → f.loadError? = none := by
    intro result source hresult f hf
    cases result with
    | error e => exact hresult f (congrArg Except.error (Except.error.inj hf))
    | ok s => cases hf
  cases asked with
  | some path =>
    cases hpresent : tree.isPresent directory path with
    | true =>
      obtain ⟨result, hresult, hread⟩ := exists_takes_readSettings tree directory path
      refine ⟨_, hmap (some path) hresult, fun w htree hdirectory => ?_⟩
      have hrest := hread w htree hdirectory
      subst htree hdirectory
      exact (takes_isPresent hpresent).ask (hrest.map _)
    | false =>
      refine ⟨.error (.settingsMissing path), fun f hf => Except.error.inj hf ▸ rfl, fun w htree hdirectory => ?_⟩
      subst htree hdirectory
      exact (takes_isPresent hpresent).ask (.throw _ w)
  | none =>
    obtain ⟨found, hfound⟩ := exists_takes_findSettings tree directory directory.path.toList
    cases found with
    | none =>
      refine ⟨.ok ⟨.standard, none⟩, fun f hf => (by cases hf), fun w htree hdirectory => ?_⟩
      exact (hfound w htree hdirectory).ask (.pure _ w)
    | some path =>
      obtain ⟨result, hresult, hread⟩ := exists_takes_readSettings tree directory path
      refine ⟨_, hmap (some path) hresult, fun w htree hdirectory => ?_⟩
      exact (hfound w htree hdirectory).ask ((hread w htree hdirectory).map _)

namespace CheckRequest

/-- What a request finds when it looks for its settings. -/
def loadedOn (r : CheckRequest) (tree : Tree) (directory : Location) : Except Failure LoadedSettings :=
  (Run.outcome (loadSettings directory.path r.settingsFile) ⟨tree, directory, []⟩).1

variable {r : CheckRequest} {tree : Tree} {directory : Location}

theorem loadedOn_spec (r : CheckRequest) (tree : Tree) (directory : Location) :
    (∀ f, r.loadedOn tree directory = .error f → f.loadError? = none) ∧
      ∀ {σ : Type} [Host (StateM σ)] [Records σ] (w : σ), Records.tree w = tree → Records.directory w = directory →
        Takes (loadSettings directory.path r.settingsFile : ExceptT Failure (StateM σ) LoadedSettings) w []
          (r.loadedOn tree directory) := by
  obtain ⟨result, hresult, htakes⟩ := exists_takes_loadSettings tree directory r.settingsFile
  have hloaded : r.loadedOn tree directory = result :=
    congrArg Prod.fst (htakes (σ := World) ⟨tree, directory, []⟩ rfl rfl)
  rw [hloaded]
  exact ⟨hresult, htakes⟩

theorem settingsOn?_eq (r : CheckRequest) (tree : Tree) (directory : Location) :
    r.settingsOn? tree directory = ((r.loadedOn tree directory).map fun loaded => r.apply loaded.settings).toOption := by
  rw [settingsOn?, loadedOn]
  rcases Run.outcome (loadSettings directory.path r.settingsFile) ⟨tree, directory, []⟩ with ⟨result, w⟩
  cases result <;> rfl

theorem exists_loadedOn {s : Settings} (hs : r.settingsOn? tree directory = some s) :
    ∃ loaded, r.loadedOn tree directory = .ok loaded ∧ r.apply loaded.settings = s := by
  rw [settingsOn?_eq] at hs
  cases hload : r.loadedOn tree directory with
  | error f =>
    rw [hload] at hs
    cases hs
  | ok loaded =>
    rw [hload] at hs
    exact ⟨loaded, rfl, Option.some.inj hs⟩

end CheckRequest

/-- How a check is carried out. -/
inductive CheckCourse (r : CheckRequest) (color : Bool) (directory : Location) (tree : Tree) :
    List Deed → Except Failure ExitStatus → Prop where
  | unsettled {f : Failure} (hload : r.loadedOn tree directory = .error f) :
      CheckCourse r color directory tree [] (.error f)
  | settled {loaded : LoadedSettings} {deeds : List Deed} {result : Except Failure ExitStatus}
      (hload : r.loadedOn tree directory = .ok loaded)
      (hrest : ProjectCourse color (r.apply loaded.settings) loaded.source directory tree deeds result) :
      CheckCourse r color directory tree deeds result

theorem takes_runCheck {σ : Type} [Host (StateM σ)] [Records σ] {w : σ} {r : CheckRequest} {color : Bool}
    {deeds : List Deed} {result : Except Failure ExitStatus}
    (h : CheckCourse r color (Records.directory w) (Records.tree w) deeds result) :
    Takes (runCheck color r : ExceptT Failure (StateM σ) ExitStatus) w deeds result := by
  have hsettings := (r.loadedOn_spec (Records.tree w) (Records.directory w)).2 w rfl rfl
  cases h with
  | unsettled hload =>
    rw [hload] at hsettings
    exact (takes_directory w).ask (hsettings.bind_error _)
  | settled hload hrest =>
    rw [hload] at hsettings
    exact (takes_directory w).ask (hsettings.ask (takes_checkProject hrest))

theorem exists_checkCourse (r : CheckRequest) (color : Bool) (tree : Tree) (directory : Location) :
    ∃ deeds result, CheckCourse r color directory tree deeds result := by
  cases hload : r.loadedOn tree directory with
  | error f => exact ⟨_, _, .unsettled hload⟩
  | ok loaded =>
    obtain ⟨deeds, result, hrest⟩ :=
      exists_projectCourse directory color (r.apply loaded.settings) loaded.source tree
    exact ⟨_, _, .settled hload hrest⟩

/-! ### The command -/

theorem World.foldl_record (w : World) (deeds : List Deed) :
    deeds.foldl World.record w =
      ⟨treeAfter w.directory w.tree deeds, w.directory, w.said ++ utterances deeds⟩ := by
  induction deeds generalizing w with
  | nil => rw [utterances, List.filterMap_nil, List.append_nil]; rfl
  | cons d rest ih =>
    have hsaid : utterances (d :: rest) = d.utterance?.toList ++ utterances rest := by cases d <;> rfl
    rw [List.foldl_cons, ih, hsaid, record, List.append_assoc]
    rfl

theorem Journal.foldl_record (j : Journal) (deeds : List Deed) :
    deeds.foldl Journal.record j = ⟨treeAfter j.directory j.tree deeds, j.directory, j.deeds ++ deeds⟩ := by
  induction deeds generalizing j with
  | nil => rw [List.append_nil]; rfl
  | cons d rest ih =>
    rw [List.foldl_cons, ih, record, List.append_assoc]
    rfl

namespace Command

/-- What a command does on a directory tree, in order. -/
def journal (c : Command) (color : Bool) (tree : Tree) (directory : Location) : Journal :=
  let action : ExceptT Failure (StateM Journal) ExitStatus := runCommand color c
  (StateT.run (ExceptT.run action) ⟨tree, directory, []⟩).2

variable {r : CheckRequest} {color : Bool} {tree : Tree} {directory : Location}

theorem journal_of_course {deeds : List Deed} {result : Except Failure ExitStatus}
    (h : CheckCourse r color directory tree deeds result) :
    (check r).journal color tree directory = ⟨treeAfter directory tree deeds, directory, deeds⟩ := by
  have htakes := takes_runCheck (w := (⟨tree, directory, []⟩ : Journal)) h
  have hjournal := congrArg Prod.snd htakes
  rw [show Records.record = Journal.record from rfl, Journal.foldl_record] at hjournal
  exact hjournal

/-- The outcome of a check that ends with a result in a world. -/
def outcomeOf (result : Except Failure ExitStatus) (w : World) : Outcome :=
  match result with
  | .ok status => ⟨status, none, w⟩
  | .error f => ⟨.ofFailure f, some f, w⟩

theorem outcomeOf_world (result : Except Failure ExitStatus) (w : World) : (outcomeOf result w).world = w := by
  cases result <;> rfl

theorem run_of_course {deeds : List Deed} {result : Except Failure ExitStatus}
    (h : CheckCourse r color directory tree deeds result) :
    (check r).run color tree directory =
      outcomeOf result ⟨treeAfter directory tree deeds, directory, utterances deeds⟩ := by
  have htakes : Run.outcome (runCheck color r) ⟨tree, directory, []⟩ = _ :=
    takes_runCheck (w := (⟨tree, directory, []⟩ : World)) h
  rw [show Records.record = World.record from rfl, World.foldl_record, List.nil_append] at htakes
  rw [run_check, htakes]
  cases result <;> rfl

/-- A check that does not fail takes a course that ends with a status. -/
theorem exists_course_of_ends (h : ((check r).run color tree directory).failure = none) :
    ∃ deeds status, CheckCourse r color directory tree deeds (.ok status) := by
  obtain ⟨deeds, result, hcourse⟩ := exists_checkCourse r color tree directory
  rw [run_of_course hcourse] at h
  cases result with
  | error f => cases h
  | ok status => exact ⟨deeds, status, hcourse⟩

end Command

end BundleCheck
