import BundleCheck.Proofs.Files.Components
import BundleCheck.Proofs.Run.Refinement
import BundleCheck.Run.Program

/-!
# The settings that a request finds

A run looks for its settings at few paths and changes nothing while it does so. If there is the same at
these paths in another tree, it finds the same settings there, so a run that writes no settings file is
followed by one under the same settings.
-/

namespace BundleCheck

/-- The settings that the request finds in a tree. -/
def CheckRequest.settingsOn? (r : CheckRequest) (tree : Tree) (directory : Location) : Option Settings :=
  match Run.outcome (loadSettings directory.path r.settingsFile) ⟨tree, directory, []⟩ with
  | (.ok loaded, _) => some (r.apply loaded.settings)
  | (.error _, _) => none

/-- The paths at which it may look for them. -/
def CheckRequest.sources (r : CheckRequest) (directory : Location) : List String :=
  match r.settingsFile with
  | some path => [path]
  | none =>
    (Path.upwards directory.path.toList).flatMap fun d => [Path.entry d settingsFileName, Path.entry d repositoryMark]

/-- There is the same at the end of the path. -/
structure World.AgreeAt (w w' : World) (path : String) : Prop where
  isPresent : w'.tree.isPresent w'.directory path = w.tree.isPresent w.directory path
  read : ∀ {text}, w.tree.read w.directory path = .ok text → w'.tree.read w'.directory path = .ok text

variable {w w' w'' : World} {r : CheckRequest} {tree tree' : Tree} {directory : Location} {path : String}

theorem World.AgreeAt.refl (w : World) (path : String) : w.AgreeAt w path := ⟨rfl, id⟩

theorem World.agreeAt_of_view (hways : w'.ways path = w.ways path)
    (hview : ∀ l, w.ways path = .file l → w'.view l = w.view l) : w.AgreeAt w' path where
  isPresent := by
    rw [Tree.isPresent_eq, Tree.isPresent_eq]
    rw [show w'.tree.spot w'.directory path = w.tree.spot w.directory path from hways]
    split
    · rename_i l hl
      rw [show w'.tree.node? l = w.tree.node? l from hview l hl]
    · rfl
    · rfl
  read {text} h := by
    obtain ⟨l, hl, hnode⟩ := Tree.read_eq_ok_iff.1 h
    refine Tree.read_eq_ok_iff.2 ⟨l, hways.trans hl, ?_⟩
    exact (hview l hl).trans hnode

/-! ### Looking for settings -/

/-- What is found in a directory or further on is found again where the same is there. -/
theorem finishes_settingsAt {d : List Char} {further : Run (Option String)} {found : Option String}
    {P : String → Prop} (h : Run.Finishes (settingsAt d further) w found w'')
    (hsettings : w.AgreeAt w' (Path.entry d settingsFileName)) (hmark : w.AgreeAt w' (Path.entry d repositoryMark))
    (hP : P (Path.entry d settingsFileName))
    (hfurther : Run.Finishes further w found w'' →
      w'' = w ∧ Run.Finishes further w' found w' ∧ ∀ path, found = some path → P path) :
    w'' = w ∧ Run.Finishes (settingsAt d further) w' found w' ∧ ∀ path, found = some path → P path := by
  obtain ⟨isThere, w₁, hpresent, hnext⟩ := Run.finishes_bind_iff.1 h
  obtain ⟨hthere, rfl⟩ := Run.finishes_isPresent_iff.1 hpresent
  have hstep := Run.finishes_isPresent (hsettings.isPresent.trans hthere)
  cases isThere with
  | true =>
    obtain ⟨rfl, rfl⟩ := Run.finishes_pure_iff.1 hnext
    exact ⟨rfl, hstep.bind (Run.finishes_pure _ w'), fun path hpath => Option.some.inj hpath ▸ hP⟩
  | false =>
    obtain ⟨isMarked, w₁, hpresent', hrest⟩ := Run.finishes_bind_iff.1 hnext
    obtain ⟨hmarked, rfl⟩ := Run.finishes_isPresent_iff.1 hpresent'
    have hstep' := Run.finishes_isPresent (hmark.isPresent.trans hmarked)
    cases isMarked with
    | true =>
      obtain ⟨rfl, rfl⟩ := Run.finishes_pure_iff.1 hrest
      exact ⟨rfl, hstep.bind (hstep'.bind (Run.finishes_pure none w')), fun path hpath => by cases hpath⟩
    | false =>
      obtain ⟨rfl, hagain, hfound⟩ := hfurther hrest
      exact ⟨rfl, hstep.bind (hstep'.bind hagain), hfound⟩

theorem finishes_findSettings {start : List Char} {found : Option String}
    (h : Run.Finishes (findSettings start) w found w'')
    (hagree : ∀ d ∈ Path.upwards start,
      w.AgreeAt w' (Path.entry d settingsFileName) ∧ w.AgreeAt w' (Path.entry d repositoryMark)) :
    w'' = w ∧ Run.Finishes (findSettings start) w' found w' ∧
      ∀ path, found = some path → ∃ d ∈ Path.upwards start, path = Path.entry d settingsFileName := by
  induction start using Path.above_induction with
  | top start hparent =>
    obtain ⟨hsettings, hmark⟩ := hagree start (Path.mem_upwards_self start)
    rw [findSettings_of_none hparent] at h ⊢
    refine finishes_settingsAt h hsettings hmark ⟨start, Path.mem_upwards_self start, rfl⟩ fun hnone => ?_
    obtain ⟨rfl, rfl⟩ := Run.finishes_pure_iff.1 hnone
    exact ⟨rfl, Run.finishes_pure none w', fun path hpath => by cases hpath⟩
  | below start parent hparent ih =>
    obtain ⟨hsettings, hmark⟩ := hagree start (Path.mem_upwards_self start)
    have habove : ∀ d ∈ Path.upwards parent, d ∈ Path.upwards start := fun d hd =>
      Path.upwards_of_some hparent ▸ List.mem_cons_of_mem start hd
    rw [findSettings_of_some hparent] at h ⊢
    refine finishes_settingsAt h hsettings hmark ⟨start, Path.mem_upwards_self start, rfl⟩ fun hrest => ?_
    obtain ⟨rfl, hagain, hfound⟩ := ih hrest fun d hd => hagree d (habove d hd)
    refine ⟨rfl, hagain, fun path hpath => ?_⟩
    obtain ⟨d, hd, hplace⟩ := hfound path hpath
    exact ⟨d, habove d hd, hplace⟩

theorem finishes_readSettings {s : Settings} (h : Run.Finishes (readSettings path) w s w'')
    (hagree : w.AgreeAt w' path) : w'' = w ∧ Run.Finishes (readSettings path) w' s w' := by
  obtain ⟨result, w₁, hread, hnext⟩ := Run.finishes_bind_iff.1 h
  obtain ⟨hresult, rfl⟩ := Run.finishes_read_iff.1 hread
  cases result with
  | error e => exact absurd hnext Run.not_finishes_throw
  | ok text =>
    have hstep := Run.finishes_read (hagree.read hresult)
    cases hsettings : Settings.ofText? text with
    | none =>
      simp only [hsettings] at hnext
      exact absurd hnext Run.not_finishes_throw
    | some found =>
      simp only [hsettings] at hnext
      obtain ⟨rfl, rfl⟩ := Run.finishes_pure_iff.1 hnext
      refine ⟨rfl, hstep.bind ?_⟩
      simp only [hsettings]
      exact Run.finishes_pure _ w'

theorem finishes_loadSettings {loaded : LoadedSettings}
    (h : Run.Finishes (loadSettings directory.path r.settingsFile) w loaded w'')
    (hagree : ∀ path ∈ r.sources directory, w.AgreeAt w' path) :
    w'' = w ∧ Run.Finishes (loadSettings directory.path r.settingsFile) w' loaded w' := by
  rw [CheckRequest.sources] at hagree
  cases hasked : r.settingsFile with
  | some path =>
    rw [hasked] at h hagree
    have hsource := hagree path List.mem_cons_self
    obtain ⟨isThere, w₁, hpresent, hnext⟩ := Run.finishes_bind_iff.1 h
    obtain ⟨hthere, rfl⟩ := Run.finishes_isPresent_iff.1 hpresent
    have hstep := Run.finishes_isPresent (hsource.isPresent.trans hthere)
    cases isThere with
    | true =>
      obtain ⟨s, w₁, hread, hend⟩ := Run.finishes_bind_iff.1 hnext
      obtain ⟨rfl, hagain⟩ := finishes_readSettings hread hsource
      obtain ⟨rfl, rfl⟩ := Run.finishes_pure_iff.1 hend
      exact ⟨rfl, hstep.bind (hagain.bind (Run.finishes_pure _ w'))⟩
    | false => exact absurd hnext Run.not_finishes_throw
  | none =>
    rw [hasked] at h hagree
    have hsources : ∀ d ∈ Path.upwards directory.path.toList,
        w.AgreeAt w' (Path.entry d settingsFileName) ∧ w.AgreeAt w' (Path.entry d repositoryMark) := fun d hd =>
      ⟨hagree _ (List.mem_flatMap.2 ⟨d, hd, by simp⟩), hagree _ (List.mem_flatMap.2 ⟨d, hd, by simp⟩)⟩
    obtain ⟨found, w₁, hfind, hnext⟩ := Run.finishes_bind_iff.1 h
    obtain ⟨rfl, hstep, hplace⟩ := finishes_findSettings hfind hsources
    cases found with
    | none =>
      obtain ⟨rfl, rfl⟩ := Run.finishes_pure_iff.1 hnext
      exact ⟨rfl, hstep.bind (Run.finishes_pure _ w')⟩
    | some path =>
      obtain ⟨d, hd, rfl⟩ := hplace path rfl
      obtain ⟨s, w₁, hread, hend⟩ := Run.finishes_bind_iff.1 hnext
      obtain ⟨rfl, hagain⟩ := finishes_readSettings hread (hsources d hd).1
      obtain ⟨rfl, rfl⟩ := Run.finishes_pure_iff.1 hend
      exact ⟨rfl, hstep.bind (hagain.bind (Run.finishes_pure _ w'))⟩

namespace CheckRequest

theorem settingsOn?_eq_some_iff {s : Settings} :
    r.settingsOn? tree directory = some s ↔ ∃ loaded,
      Run.Finishes (loadSettings directory.path r.settingsFile) ⟨tree, directory, []⟩ loaded ⟨tree, directory, []⟩ ∧
        r.apply loaded.settings = s := by
  rw [settingsOn?]
  constructor
  · intro h
    split at h
    · rename_i loaded w' houtcome
      obtain ⟨rfl, -⟩ := finishes_loadSettings houtcome fun path _ => .refl _ path
      exact ⟨loaded, houtcome, Option.some.inj h⟩
    · cases h
  · rintro ⟨loaded, hload, rfl⟩
    rw [show Run.outcome _ _ = _ from hload]

/-- The same settings are found where there is the same at the paths that are looked at. -/
theorem settingsOn?_of_agree {s : Settings} (h : r.settingsOn? tree directory = some s)
    (hagree : ∀ path ∈ r.sources directory,
      World.AgreeAt ⟨tree, directory, []⟩ ⟨tree', directory, []⟩ path) :
    r.settingsOn? tree' directory = some s := by
  obtain ⟨loaded, hload, hs⟩ := settingsOn?_eq_some_iff.1 h
  exact settingsOn?_eq_some_iff.2 ⟨loaded, (finishes_loadSettings hload hagree).2, hs⟩

/-- Carrying out a request is checking the project under the settings that are found. -/
theorem finishes_runCheck {s : Settings} (hs : r.settingsOn? tree directory = some s) (color : Bool) :
    ∃ source, ∀ status w', Run.Finishes (runCheck color r) ⟨tree, directory, []⟩ status w' ↔
      Run.Finishes (checkProject color s source) ⟨tree, directory, []⟩ status w' := by
  obtain ⟨loaded, hload, rfl⟩ := settingsOn?_eq_some_iff.1 hs
  refine ⟨loaded.source, fun status w' => ⟨fun h => ?_, fun h => ?_⟩⟩
  · obtain ⟨l, w₁, hdirectory, hrest⟩ := Run.finishes_bind_iff.1 h
    obtain ⟨rfl, rfl⟩ := Run.finishes_directory_iff.1 hdirectory
    obtain ⟨loaded', w₁, hload', hcheck⟩ := Run.finishes_bind_iff.1 hrest
    obtain ⟨rfl, rfl⟩ := hload.unique hload'
    exact hcheck
  · exact (Run.finishes_directory_iff.2 ⟨rfl, rfl⟩).bind (hload.bind h)

end CheckRequest

/-! ### The command -/

namespace Command

variable {color : Bool} {s : Settings}

theorem run_check (r : CheckRequest) (color : Bool) (tree : Tree) (directory : Location) :
    (check r).run color tree directory =
      match Run.outcome (runCheck color r) ⟨tree, directory, []⟩ with
      | (.ok status, w) => ⟨status, none, w⟩
      | (.error f, w) => ⟨.ofFailure f, some f, w⟩ := by
  rw [run, runCommand, Run.outcome]
  rcases ExceptT.run (runCheck color r : Run ExitStatus) ⟨tree, directory, []⟩ with ⟨result, w⟩
  cases result <;> rfl

theorem run_check_of_finishes {status : ExitStatus}
    (h : Run.Finishes (runCheck color r) ⟨tree, directory, []⟩ status w) :
    (check r).run color tree directory = ⟨status, none, w⟩ := by
  rw [run_check, show Run.outcome _ _ = _ from h]

theorem finishes_of_run_check (h : ((check r).run color tree directory).failure = none) :
    ∃ status, Run.Finishes (runCheck color r) ⟨tree, directory, []⟩ status
      ((check r).run color tree directory).world := by
  rw [run_check] at h ⊢
  split at h
  · rename_i status w' houtcome
    exact ⟨status, houtcome⟩
  · cases h

theorem usable_of_run_check (hs : r.settingsOn? tree directory = some s)
    (h : ((check r).run color tree directory).failure = none) :
    s.IsValid ∧ s.files ≠ [] ∧ Deferral.HasPattern s.deferralMarker := by
  obtain ⟨status, hfinish⟩ := finishes_of_run_check h
  obtain ⟨source, hsource⟩ := CheckRequest.finishes_runCheck hs color
  exact usable_of_checkProject ((hsource _ _).1 hfinish)

/-- With updating on, a check comes to its end if the effect does, and leaves its view. -/
theorem run_check_spec (hs : r.settingsOn? tree directory = some s) (hupdate : s.update = true)
    (hvalid : s.IsValid) (hpattern : Deferral.HasPattern s.deferralMarker) (hfiles : s.files ≠ []) (color : Bool) :
    let outcome := (check r).run color tree directory
    match projectEffect s (tree.spot directory) tree.node? with
    | some v => outcome.failure = none ∧ outcome.world.tree.node? = v ∧
        outcome.world.tree.spot directory = tree.spot directory
    | none => outcome.failure ≠ none := by
  intro outcome
  obtain ⟨source, hsource⟩ := CheckRequest.finishes_runCheck hs color
  have hsimulates := simulates_checkProject hupdate hvalid hpattern hfiles color source ⟨tree, directory, []⟩
  change Simulates _ _ (projectEffect s (tree.spot directory) tree.node?) at hsimulates
  cases heffect : projectEffect s (tree.spot directory) tree.node? with
  | some v =>
    rw [heffect] at hsimulates
    obtain ⟨status, w', hfinish, rfl, hways⟩ := hsimulates
    have hrun := run_check_of_finishes ((hsource _ _).2 hfinish)
    have hspot := hways.ways
    rw [World.ways, World.ways, hways.directory] at hspot
    exact ⟨by rw [show outcome = _ from hrun], by rw [show outcome = _ from hrun]; rfl,
      by rw [show outcome = _ from hrun]; exact hspot⟩
  | none =>
    rw [heffect] at hsimulates
    intro hnone
    obtain ⟨status, hfinish⟩ := finishes_of_run_check hnone
    exact hsimulates _ _ ((hsource _ _).1 hfinish)

end Command

end BundleCheck
