import BundleCheck.Proofs.Files.Directories

/-!
# The search for settings

The search goes from a directory towards the root. It is over where there are settings, where a repository begins, and
at the root, and in a directory that has both of the first two the settings count. So the file that is found is the
nearest, and none is found beyond the directory in which a repository begins. The search asks no more than two questions
in each directory on the way.
-/

namespace BundleCheck

/-! ### Questions and answers -/

/-- What is found among the directories, given what there is. -/
def settingsAmong (isThere : String → Bool) : List (List Char) → Option String
  | [] => none
  | d :: rest =>
    if isThere (Path.entry d settingsFileName) then some (Path.entry d settingsFileName)
    else if isThere (Path.entry d repositoryMark) then none
    else settingsAmong isThere rest

/-- The paths that are looked at on the way. -/
def pathsAsked (isThere : String → Bool) : List (List Char) → List String
  | [] => []
  | d :: rest =>
    if isThere (Path.entry d settingsFileName) then [Path.entry d settingsFileName]
    else Path.entry d settingsFileName :: Path.entry d repositoryMark ::
      if isThere (Path.entry d repositoryMark) then [] else pathsAsked isThere rest

variable {isThere : String → Bool}

theorem length_pathsAsked_le (isThere : String → Bool) (directories : List (List Char)) :
    (pathsAsked isThere directories).length ≤ 2 * directories.length := by
  induction directories with
  | nil => exact Nat.zero_le _
  | cons d rest ih =>
    rw [pathsAsked, List.length_cons]
    split
    · rw [List.length_singleton]
      omega
    · rw [List.length_cons, List.length_cons]
      split
      · rw [List.length_nil]
        omega
      · omega

section Hosts

variable {σ : Type} [Host (StateM σ)] {kind : σ → Prop} {note : σ → String → σ}

theorem run_settingsAt (hkind : ∀ w path, kind w → kind (note w path))
    (hanswer : ∀ w path, kind w → StateT.run (Host.isPresent path : StateM σ Bool) w = (isThere path, note w path))
    {further : StateM σ (Option String)} {rest : List (List Char)}
    (hfurther : ∀ w, kind w →
      StateT.run further w = (settingsAmong isThere rest, (pathsAsked isThere rest).foldl note w))
    (d : List Char) {w : σ} (hw : kind w) :
    StateT.run (settingsAt d further) w =
      (settingsAmong isThere (d :: rest), (pathsAsked isThere (d :: rest)).foldl note w) := by
  rw [settingsAt, settingsAmong, pathsAsked, StateT.run_bind, hanswer w _ hw]
  cases hsettings : isThere (Path.entry d settingsFileName) with
  | true => rfl
  | false =>
    have hnext := hkind w (Path.entry d settingsFileName) hw
    change StateT.run (Host.isPresent (Path.entry d repositoryMark) >>= _ : StateM σ (Option String)) _ = _
    rw [StateT.run_bind, hanswer _ _ hnext]
    cases hmark : isThere (Path.entry d repositoryMark) with
    | true => rfl
    | false => exact hfurther _ (hkind _ _ hnext)

/-- A host answers questions in states of some kind, and can keep in its state that they were asked. -/
theorem run_findSettings (hkind : ∀ w path, kind w → kind (note w path))
    (hanswer : ∀ w path, kind w → StateT.run (Host.isPresent path : StateM σ Bool) w = (isThere path, note w path))
    (start : List Char) {w : σ} (hw : kind w) :
    StateT.run (findSettings start : StateM σ (Option String)) w =
      (settingsAmong isThere (Path.upwards start), (pathsAsked isThere (Path.upwards start)).foldl note w) := by
  induction start using Path.above_induction generalizing w with
  | top path h =>
    rw [findSettings_of_none h, Path.upwards_of_none h]
    have hnone : ∀ w, kind w → StateT.run (pure none : StateM σ (Option String)) w =
        (settingsAmong isThere [], (pathsAsked isThere []).foldl note w) := fun _ _ => rfl
    exact run_settingsAt hkind hanswer hnone path hw
  | below path parent h ih =>
    rw [findSettings_of_some h, Path.upwards_of_some h]
    exact run_settingsAt hkind hanswer (fun _ hv => ih hv) path hw

end Hosts

/-- A host that answers as a directory tree does, and keeps the paths that it was asked about. -/
structure Inquiry where
  tree : Tree
  directory : Location
  asked : List String := []
deriving DecidableEq

def Inquiry.ask (q : Inquiry) (path : String) : Inquiry := { q with asked := q.asked ++ [path] }

instance : Host (StateM Inquiry) where
  directory := fun q => (q.directory, q)
  isPresent path := fun q => (q.tree.isPresent q.directory path, q.ask path)
  read path := fun q => (q.tree.read q.directory path, q)
  write path text := fun q =>
    match q.tree.write q.directory path text with
    | .error e => (.error e, q)
    | .ok tree => (.ok (), { q with tree })
  say _ _ := fun q => ((), q)

theorem World.run_findSettings (w : World) (start : List Char) :
    StateT.run (findSettings start : StateM World (Option String)) w =
      (settingsAmong (w.tree.isPresent w.directory) (Path.upwards start), w) := by
  have hanswer : ∀ v path, v = w → StateT.run (Host.isPresent path : StateM World Bool) v =
      (w.tree.isPresent w.directory path, v) := by
    intro v path hv
    rw [hv]
    rfl
  have hkind : ∀ v (_ : String), v = w → v = w := fun v _ hv => hv
  have hrun := BundleCheck.run_findSettings hkind hanswer start rfl
  rwa [List.foldl_fixed] at hrun

theorem Inquiry.foldl_ask (q : Inquiry) (paths : List String) :
    paths.foldl ask q = { q with asked := q.asked ++ paths } := by
  induction paths generalizing q with
  | nil => rw [List.foldl_nil, List.append_nil]
  | cons path paths ih => rw [List.foldl_cons, ih, ask, List.append_assoc, List.singleton_append]

theorem Inquiry.run_findSettings (q : Inquiry) (start : List Char) :
    StateT.run (findSettings start : StateM Inquiry (Option String)) q =
      (settingsAmong (q.tree.isPresent q.directory) (Path.upwards start),
        { q with asked := q.asked ++ pathsAsked (q.tree.isPresent q.directory) (Path.upwards start) }) := by
  have hanswer : ∀ (r : Inquiry) path, r.tree = q.tree ∧ r.directory = q.directory →
      StateT.run (Host.isPresent path : StateM Inquiry Bool) r = (q.tree.isPresent q.directory path, r.ask path) := by
    intro r path hr
    rw [← hr.1, ← hr.2]
    rfl
  have hkind : ∀ (r : Inquiry) path, r.tree = q.tree ∧ r.directory = q.directory →
      (r.ask path).tree = q.tree ∧ (r.ask path).directory = q.directory := fun _ _ hr => hr
  have hrun := BundleCheck.run_findSettings hkind hanswer start ⟨rfl, rfl⟩
  rwa [foldl_ask] at hrun

/-! ### The first settings on the way -/

/-- There are settings in the directory, and from the start up to it there are none and no repository begins. -/
structure IsFirstWithSettings (isThere : String → Bool) (start d : List Char) : Prop where
  above : d ∈ Path.upwards start
  settings : isThere (Path.entry d settingsFileName) = true
  clear : ∀ e ∈ Path.upwards start, (Path.components d).length < (Path.components e).length →
    isThere (Path.entry e settingsFileName) = false ∧ isThere (Path.entry e repositoryMark) = false

theorem isFirstWithSettings_top_iff {path d : List Char} (h : Path.parent? path = none) :
    IsFirstWithSettings isThere path d ↔ d = path ∧ isThere (Path.entry path settingsFileName) = true := by
  constructor
  · intro hd
    obtain rfl := List.mem_singleton.1 (Path.upwards_of_none h ▸ hd.above)
    exact ⟨rfl, hd.settings⟩
  · rintro ⟨rfl, hsettings⟩
    refine ⟨Path.mem_upwards_self d, hsettings, fun e he hlength => ?_⟩
    rw [Path.upwards_of_none h, List.mem_singleton] at he
    rw [he] at hlength
    exact absurd hlength (Nat.lt_irrefl _)

theorem isFirstWithSettings_below_iff {path parent d : List Char} (h : Path.parent? path = some parent) :
    IsFirstWithSettings isThere path d ↔
      (d = path ∧ isThere (Path.entry path settingsFileName) = true) ∨
      ((isThere (Path.entry path settingsFileName) = false ∧ isThere (Path.entry path repositoryMark) = false) ∧
        IsFirstWithSettings isThere parent d) := by
  have hshorter : ∀ e ∈ Path.upwards parent, (Path.components e).length < (Path.components path).length := by
    intro e he
    obtain ⟨c, -, hc⟩ := Path.components_of_parent? h
    rw [hc, List.length_append]
    exact Nat.lt_succ_of_le (Path.components_prefix_of_mem_upwards he).length_le
  constructor
  · intro hd
    rcases List.mem_cons.1 (Path.upwards_of_some h ▸ hd.above) with rfl | habove
    · exact .inl ⟨rfl, hd.settings⟩
    · refine .inr ⟨hd.clear path (Path.mem_upwards_self path) (hshorter d habove), habove, hd.settings, fun e he => ?_⟩
      exact hd.clear e (Path.upwards_of_some h ▸ List.mem_cons_of_mem path he)
  · rintro (⟨rfl, hsettings⟩ | ⟨hclear, hd⟩)
    · refine ⟨Path.mem_upwards_self d, hsettings, fun e he hlength => ?_⟩
      rcases List.mem_cons.1 (Path.upwards_of_some h ▸ he) with rfl | he
      · exact absurd hlength (Nat.lt_irrefl _)
      · exact absurd hlength (Nat.lt_asymm (hshorter e he))
    · refine ⟨Path.upwards_of_some h ▸ List.mem_cons_of_mem path hd.above, hd.settings, fun e he hlength => ?_⟩
      rcases List.mem_cons.1 (Path.upwards_of_some h ▸ he) with rfl | he
      · exact hclear
      · exact hd.clear e he hlength

/-- From any path, be it absolute, relative or with dots in it, the search finds the first settings on the way up. -/
theorem settingsAmong_upwards_iff {start : List Char} {path : String} :
    settingsAmong isThere (Path.upwards start) = some path ↔
      ∃ d, IsFirstWithSettings isThere start d ∧ path = Path.entry d settingsFileName := by
  induction start using Path.above_induction with
  | top start h =>
    rw [Path.upwards_of_none h, settingsAmong, settingsAmong, ite_self]
    simp only [isFirstWithSettings_top_iff h]
    split
    · rename_i hthere
      simp only [hthere, and_true, exists_eq_left, Option.some.injEq]
      exact eq_comm
    · rename_i hthere
      simp [hthere]
  | below start parent h ih =>
    rw [Path.upwards_of_some h, settingsAmong]
    simp only [isFirstWithSettings_below_iff h]
    split
    · rename_i hthere
      simp only [hthere, and_true, Bool.true_eq_false, false_and, or_false, exists_eq_left, Option.some.injEq]
      exact eq_comm
    · rename_i hthere
      split
      · rename_i hmarked
        simp [hthere, hmarked]
      · rename_i hmarked
        simp [hthere, hmarked, ih]

/-- The search ends from any path, and changes nothing. What lies on its way is told by the components of the path. -/
theorem World.findSettings_first (w : World) (start : List Char) :
    ∃ found, StateT.run (findSettings start : StateM World (Option String)) w = (found, w) ∧
      ∀ path, found = some path ↔ ∃ d, IsFirstWithSettings (w.tree.isPresent w.directory) start d ∧
        path = Path.entry d settingsFileName :=
  ⟨_, w.run_findSettings start, fun _ => settingsAmong_upwards_iff⟩

/-- From the dot for the current directory the search does not leave it. -/
example : Path.upwards ['.'] = [['.'], []] ∧ Path.upwards "a/../b".toList = ["a/../b", "a/..", "a", ""].map (·.toList) := by
  decide +kernel

/-! ### The nearest settings -/

namespace Tree

/-- From the start up to but not including the directory, there are no settings and no repository begins. -/
def IsClear (t : Tree) (start d : Location) : Prop :=
  ∀ nearer, d <+: nearer → nearer <+: start → nearer ≠ d →
    ¬ t.Holds nearer settingsFileName ∧ ¬ t.Holds nearer repositoryMark

/-- The directory holds the settings that are nearest to the start, within the repository. -/
structure IsNearest (t : Tree) (start d : Location) : Prop where
  above : d <+: start
  settings : t.Holds d settingsFileName
  clear : t.IsClear start d

variable {t : Tree} {start d e l : Location} {name path : String}

theorem isClear_self (t : Tree) (start : Location) : t.IsClear start start :=
  fun _ hbelow habove hne => absurd (habove.eq_of_length_le hbelow.length_le) hne

theorem isClear_concat_iff (hd : d <+: l) :
    t.IsClear (l ++ [name]) d ↔
      (¬ t.Holds (l ++ [name]) settingsFileName ∧ ¬ t.Holds (l ++ [name]) repositoryMark) ∧ t.IsClear l d := by
  constructor
  · intro h
    refine ⟨h _ (hd.trans (List.prefix_append l [name])) List.prefix_rfl ?_, fun nearer hbelow habove => ?_⟩
    · intro heq
      have hlength := hd.length_le
      rw [← heq, List.length_append, List.length_singleton] at hlength
      omega
    · exact h nearer hbelow (habove.trans (List.prefix_append l [name]))
  · intro h nearer hbelow habove hne
    obtain ⟨hstart, h⟩ := h
    obtain rfl | hnearer := List.prefix_concat_iff.1 habove
    · exact hstart
    · exact h nearer hbelow hnearer hne

/-- A directory that is reached without an end to the search is no further away than the nearest settings. -/
theorem IsNearest.prefix_of_isClear (h : t.IsNearest start d) (he : e <+: start) (hclear : t.IsClear start e) :
    d <+: e := by
  obtain hle | hle := List.prefix_or_prefix_of_prefix h.above he
  · exact hle
  · by_cases hne : d = e
    · exact hne ▸ List.prefix_rfl
    · exact absurd h.settings (hclear d hle h.above hne).1

theorem IsNearest.eq_of_mark (h : t.IsNearest start d) (he : e <+: start) (hclear : t.IsClear start e)
    (hmark : t.Holds e repositoryMark) : d = e := by
  by_contra hne
  exact (h.clear e (h.prefix_of_isClear he hclear) he (Ne.symm hne)).2 hmark

/-- The answers tell whether the directory has settings, and whether a repository begins there. -/
structure SettingsTold (t : Tree) (isThere : String → Bool) (d : Location) : Prop where
  settings : isThere (d.entry settingsFileName) = true ↔ t.Holds d settingsFileName
  mark : isThere (d.entry repositoryMark) = true ↔ t.Holds d repositoryMark

/-- Where that is told, the first settings on the way are the nearest ones. -/
theorem isFirstWithSettings_path_iff (hnames : ∀ n ∈ start, IsName n)
    (htold : ∀ d : Location, d <+: start → t.SettingsTold isThere d) {p : List Char} :
    IsFirstWithSettings isThere start.path.toList p ↔ ∃ d, t.IsNearest start d ∧ p = d.path.toList := by
  have hlength : ∀ d : Location, d <+: start → (Path.components d.path.toList).length = d.length + 1 :=
    fun d hd => length_components_path fun n hn => hnames n (hd.subset hn)
  constructor
  · intro hp
    obtain ⟨d, hd, rfl⟩ := (mem_upwards_path_iff hnames).1 hp.above
    refine ⟨d, ⟨hd, (htold d hd).settings.1 hp.settings, fun nearer hbelow habove hne => ?_⟩, rfl⟩
    have hlonger : d.length < nearer.length :=
      Nat.lt_of_le_of_ne hbelow.length_le fun heq => hne (hbelow.eq_of_length heq).symm
    obtain ⟨hsettings, hmark⟩ := hp.clear (Location.path nearer).toList ((mem_upwards_path_iff hnames).2 ⟨nearer, habove, rfl⟩)
      (by rw [hlength d hd, hlength nearer habove]; omega)
    exact ⟨mt (htold nearer habove).settings.2 (Bool.eq_false_iff.1 hsettings),
      mt (htold nearer habove).mark.2 (Bool.eq_false_iff.1 hmark)⟩
  · rintro ⟨d, hd, rfl⟩
    refine ⟨(mem_upwards_path_iff hnames).2 ⟨d, hd.above, rfl⟩, (htold d hd.above).settings.2 hd.settings, ?_⟩
    intro e he hlonger
    obtain ⟨nearer, habove, rfl⟩ := (mem_upwards_path_iff hnames).1 he
    rw [hlength d hd.above, hlength nearer habove] at hlonger
    have hbelow : d <+: nearer := List.prefix_of_prefix_length_le hd.above habove (by omega)
    obtain ⟨hsettings, hmark⟩ := hd.clear nearer hbelow habove fun heq => by rw [heq] at hlonger; omega
    exact ⟨Bool.eq_false_iff.2 (mt (htold nearer habove).settings.1 hsettings),
      Bool.eq_false_iff.2 (mt (htold nearer habove).mark.1 hmark)⟩

theorem isName_settingsFileName : IsName settingsFileName := by decide

theorem isName_repositoryMark : IsName repositoryMark := by decide

theorem WellFormed.settingsTold (ht : t.WellFormed) (hstart : t.node? start = some .directory) (current : Location)
    (hd : d <+: start) : t.SettingsTold (t.isPresent current) d where
  settings := ht.isPresent_entry_iff (ht.directory_above hstart hd) isName_settingsFileName
  mark := ht.isPresent_entry_iff (ht.directory_above hstart hd) isName_repositoryMark

/-- If there is a path for settings in the start, there is one for all that the search can meet. -/
theorem WellFormed.holds_iff (ht : t.WellFormed) (hstart : t.node? start = some .directory)
    (hfits : (start.entry settingsFileName).utf8ByteSize ≤ maxPath) (hd : d <+: start) :
    (t.Holds d settingsFileName ↔ (t.node? (d ++ [settingsFileName])).isSome) ∧
      (t.Holds d repositoryMark ↔ (t.node? (d ++ [repositoryMark])).isSome) := by
  have hsettings := Nat.le_trans (size_entry_le (ht.isName hstart) hd settingsFileName) hfits
  have hshorter : repositoryMark.utf8ByteSize ≤ settingsFileName.utf8ByteSize := by decide
  obtain ⟨size, hsize⟩ := exists_size_entry (ht.isName (ht.directory_above hstart hd))
  have hmark : (d.entry repositoryMark).utf8ByteSize ≤ maxPath := by
    rw [hsize] at hsettings ⊢
    omega
  exact ⟨holds_iff_isSome hsettings, holds_iff_isSome hmark⟩

end Tree

/-- From any directory of a tree, the search ends with the settings in the nearest directory that has some, unless a
repository begins nearer than that, and with none if there is no such directory. In a directory where a repository
begins it still finds settings, and beyond it none. If the start does not lie too deep for a path, what a directory
holds is all that there is in it. The search changes nothing, and asks at most two questions in each directory from the
start to the root. -/
theorem search_finds_nearest (w : World) (start : Location) (htree : w.tree.WellFormed)
    (hstart : w.tree.node? start = some .directory) :
    ∃ found, StateT.run (findSettings start.path.toList : StateM World (Option String)) w = (found, w) ∧
      (∀ path, found = some path ↔
        ∃ d : Location, w.tree.IsNearest start d ∧ path = d.entry settingsFileName) ∧
      (∀ m : Location, m <+: start → w.tree.IsClear start m → w.tree.Holds m repositoryMark →
        (w.tree.Holds m settingsFileName → found = some (m.entry settingsFileName)) ∧
        (¬ w.tree.Holds m settingsFileName → found = none)) ∧
      ((start.entry settingsFileName).utf8ByteSize ≤ Tree.maxPath → ∀ d : Location, d <+: start →
        (w.tree.Holds d settingsFileName ↔ (w.tree.node? (d ++ [settingsFileName])).isSome) ∧
        (w.tree.Holds d repositoryMark ↔ (w.tree.node? (d ++ [repositoryMark])).isSome)) ∧
      ∃ asked, asked.length ≤ 2 * (start.length + 1) ∧
        StateT.run (findSettings start.path.toList : StateM Inquiry (Option String)) ⟨w.tree, w.directory, []⟩ =
          (found, ⟨w.tree, w.directory, asked⟩) := by
  have hfound : ∀ path, settingsAmong (w.tree.isPresent w.directory) (Path.upwards start.path.toList) = some path ↔
      ∃ d : Location, w.tree.IsNearest start d ∧ path = d.entry settingsFileName := by
    intro path
    rw [settingsAmong_upwards_iff]
    simp only [Tree.isFirstWithSettings_path_iff (htree.isName hstart) fun d hd =>
      htree.settingsTold hstart w.directory hd]
    constructor
    · rintro ⟨p, ⟨d, hd, rfl⟩, rfl⟩
      exact ⟨d, hd, rfl⟩
    · rintro ⟨d, hd, rfl⟩
      exact ⟨_, ⟨d, hd, rfl⟩, rfl⟩
  refine ⟨_, w.run_findSettings start.path.toList, hfound, fun m hm hclear hmark => ⟨fun hsettings => ?_, fun hsettings => ?_⟩,
    fun hfits d hd => htree.holds_iff hstart hfits hd, ?_⟩
  · exact (hfound _).2 ⟨m, ⟨hm, hsettings, hclear⟩, rfl⟩
  · rw [Option.eq_none_iff_forall_ne_some]
    intro path hpath
    obtain ⟨d, hd, -⟩ := (hfound path).1 hpath
    exact hsettings (hd.eq_of_mark hm hclear hmark ▸ hd.settings)
  · refine ⟨_, ?_, Inquiry.run_findSettings ⟨w.tree, w.directory, []⟩ start.path.toList⟩
    rw [List.nil_append, ← Tree.length_upwards_path (htree.isName hstart)]
    exact length_pathsAsked_le _ _

/-- There are settings at the root. Below it one repository has settings of its own, and the other has none. -/
theorem search_finds_nearest_in_two_repositories :
    let tree : Tree := ⟨[([settingsFileName], .file (.text "")), (["p"], .directory), (["p", ".git"], .directory),
      (["p", settingsFileName], .file (.text "")), (["p", "a"], .directory), (["q"], .directory),
      (["q", ".git"], .file (.text ""))]⟩
    let w : World := { tree, directory := ["q"] }
    tree.WellFormed ∧ tree.node? ["p", "a"] = some .directory ∧ tree.node? ["q"] = some .directory ∧
      tree.IsClear ["p", "a"] ["p"] ∧ tree.Holds ["p"] repositoryMark ∧ tree.Holds ["p"] settingsFileName ∧
      tree.Holds ["q"] repositoryMark ∧ ¬ tree.Holds ["q"] settingsFileName ∧
      (Location.entry ["p", "a"] settingsFileName).utf8ByteSize ≤ Tree.maxPath ∧
      (tree.Holds ["p"] repositoryMark ↔ (tree.node? ["p", ".git"]).isSome) ∧
      StateT.run (findSettings (Location.path ["p", "a"]).toList : StateM World (Option String)) w =
        (some "/p/.proptoolrc.json", w) ∧
      StateT.run (findSettings (Location.path ["q"]).toList : StateM World (Option String)) w = (none, w) := by
  intro tree w
  have htree : tree.WellFormed := by decide +kernel
  have hinner : tree.node? ["p", "a"] = some .directory := by decide +kernel
  have houter : tree.node? ["q"] = some .directory := by decide +kernel
  have hclear : tree.IsClear (["p"] ++ ["a"]) ["p"] :=
    (Tree.isClear_concat_iff List.prefix_rfl).2 ⟨by decide +kernel, tree.isClear_self ["p"]⟩
  have hbeside : tree.Holds ["p"] repositoryMark ∧ tree.Holds ["p"] settingsFileName := by decide +kernel
  have habove : tree.Holds ["q"] repositoryMark ∧ ¬ tree.Holds ["q"] settingsFileName := by decide +kernel
  have hpath : Location.entry ["p"] settingsFileName = "/p/.proptoolrc.json" := by decide +kernel
  have hfits : (Location.entry ["p", "a"] settingsFileName).utf8ByteSize ≤ Tree.maxPath := by decide +kernel
  obtain ⟨found, hrun, -, hmark, hholds, -⟩ := search_finds_nearest w ["p", "a"] htree hinner
  rw [(hmark ["p"] (by decide) hclear hbeside.1).1 hbeside.2, hpath] at hrun
  obtain ⟨found', hrun', -, hmark', -, -⟩ := search_finds_nearest w ["q"] htree houter
  rw [(hmark' ["q"] List.prefix_rfl (tree.isClear_self ["q"]) habove.1).2 habove.2] at hrun'
  exact ⟨htree, hinner, houter, hclear, hbeside.1, hbeside.2, habove.1, habove.2, hfits,
    (hholds hfits ["p"] (by decide)).2, hrun, hrun'⟩

end BundleCheck
