import BundleCheck.Proofs.Run.Repetition
import BundleCheck.Proofs.Run.Request

/-!
# Checking again

A check with updating on is made on the tree that the same check has left. It comes to its end, but that
it leaves all as it is cannot be had for every project: an entry whose key looks like the head of a comment
is written in a line that is a comment when it is read, and the next update drops it. Those entries, and
the ones with a carriage return at the end, are the only ones that stand in the way.
-/

namespace BundleCheck

/-- The content of a file in a tree, if all of it can be read. -/
def Settings.contentIn? (s : Settings) (tree : Tree) (directory : Location) (path : String) : Option Content :=
  match tree.read directory path with
  | .ok text => Content.ofText? s.deferralMarker text
  | .error _ => none

/-- An entry of the translation at a path for a key of the base file. -/
def Settings.IsTranslated (s : Settings) (tree : Tree) (directory : Location) (base path : String) (e : Entry) :
    Prop :=
  ∃ reference d, s.contentIn? tree directory base = some reference ∧
    s.contentIn? tree directory path = some d ∧ .entry e ∈ d.lines ∧ e.key ∈ reference.keys

variable {s : Settings} {tree : Tree} {directory : Location} {r : CheckRequest} {color : Bool}

theorem contentAt?_node? (s : Settings) (tree : Tree) (directory : Location) (path : String) :
    contentAt? s (tree.spot directory) tree.node? path = s.contentIn? tree directory path := by
  rw [Settings.contentIn?]
  cases hread : tree.read directory path with
  | ok text => exact contentAt?_of_read (w := ⟨tree, directory, []⟩) s hread
  | error e =>
    refine contentAt?_of_not_read (w := ⟨tree, directory, []⟩) s fun text htext => ?_
    rw [show tree.read directory path = .ok text from htext] at hread
    cases hread

theorem isKept_node?_iff {base path : String} {e : Entry} :
    IsKept s (tree.spot directory) tree.node? base path e ↔ s.IsTranslated tree directory base path e := by
  rw [IsKept, Settings.IsTranslated, contentAt?_node?, contentAt?_node?]

theorem Settings.IsSpread.of_ne {ways : Ways}
    (hdistinct : s.targets.Pairwise fun path path' => ways path ≠ ways path')
    (hbase : ∀ path ∈ s.targets, ∀ base ∈ s.files, ways path ≠ ways base) : s.IsSpread ways where
  distinct := hdistinct.imp fun hne _ hl hl' => hne (hl.trans hl'.symm)
  ne_base path hpath base hmem _ hl hl' := hbase path hpath base hmem (hl.trans hl'.symm)

/-- A check finds its settings again if it has not written a file where it looks for them. -/
theorem CheckRequest.settingsOn?_after_check (r : CheckRequest) (hsettings : r.settingsOn? tree directory = some s)
    (hupdate : s.update = true) (hspread : s.IsSpread (tree.spot directory))
    (hsources : ∀ path ∈ s.targets, ∀ source ∈ r.sources directory, ∀ l,
      tree.spot directory path = .file l → tree.spot directory source ≠ .file l)
    (hfirst : ((Command.check r).run color tree directory).failure = none) :
    r.settingsOn? ((Command.check r).run color tree directory).world.tree directory = some s := by
  obtain ⟨hvalid, hfiles, hpattern⟩ := Command.usable_of_run_check hsettings hfirst
  have hspec := Command.run_check_spec hsettings hupdate hvalid hpattern hfiles color
  cases heffect : projectEffect s (tree.spot directory) tree.node? with
  | none =>
    rw [heffect] at hspec
    exact absurd hfirst hspec
  | some v =>
    rw [heffect] at hspec
    obtain ⟨-, hview, hspot⟩ := hspec
    refine settingsOn?_of_agree hsettings fun source hsource => ?_
    refine World.agreeAt_of_view (congrFun hspot source) fun l hl => ?_
    refine (congrFun hview l).trans (hspread.eq_of_projectEffect heffect ?_)
    rintro base hbase ⟨language, hlanguage, path, hpath, hown⟩
    exact hsources path (mem_targets hbase hlanguage hpath) source hsource l hown hl

namespace Command

/-- A check with updating on that came to its end is made again on the tree that it left, where it finds its settings
again unless it has written a file where it looks for them. It comes to its end again. It leaves every file as it is and
every entry for a key of the reference in its place exactly if none of these entries has a key that begins as a comment
does or a carriage return at its end. -/
theorem check_again_iff_durable (hsettings : r.settingsOn? tree directory = some s)
    (hupdate : s.update = true) (hspread : s.IsSpread (tree.spot directory))
    (hfirst : ((check r).run color tree directory).failure = none) :
    let first := (check r).run color tree directory
    let second := (check r).run color first.world.tree directory
    ((∀ path ∈ s.targets, ∀ source ∈ r.sources directory, ∀ l,
        tree.spot directory path = .file l → tree.spot directory source ≠ .file l) →
      r.settingsOn? first.world.tree directory = some s) ∧
    (r.settingsOn? first.world.tree directory = some s → second.failure = none ∧
      (((∀ l, second.world.tree.node? l = first.world.tree.node? l) ∧
          ForPairs s fun base path => ∀ e, s.IsTranslated tree directory base path e →
            ∃ d, s.contentIn? second.world.tree directory path = some d ∧ e.key ∈ d.keys) ↔
        ForPairs s fun base path => ∀ e, s.IsTranslated tree directory base path e →
          startsAsComment e.key.toList = false ∧ e.value.toList.getLast? ≠ some '\r')) := by
  intro first second
  refine ⟨fun hsources => r.settingsOn?_after_check hsettings hupdate hspread hsources hfirst, fun hagain => ?_⟩
  obtain ⟨hvalid, hfiles, hpattern⟩ := usable_of_run_check hsettings hfirst
  have hfirstSpec := run_check_spec hsettings hupdate hvalid hpattern hfiles color
  have hsecondSpec := run_check_spec hagain hupdate hvalid hpattern hfiles color
  cases heffect : projectEffect s (tree.spot directory) tree.node? with
  | none =>
    rw [heffect] at hfirstSpec
    exact absurd hfirst hfirstSpec
  | some v =>
    rw [heffect] at hfirstSpec
    obtain ⟨-, hview, hspot⟩ := hfirstSpec
    obtain ⟨v', heffect'⟩ := hspread.exists_projectEffect_again heffect
    rw [hspot, hview, heffect'] at hsecondSpec
    obtain ⟨hsecond, hview', hspot'⟩ := hsecondSpec
    refine ⟨hsecond, ?_⟩
    have hstable := hspread.effect_stable_iff hvalid heffect heffect'
    have hcontent : ∀ path, contentAt? s (tree.spot directory) v' path =
        s.contentIn? second.world.tree directory path := fun path => by
      rw [← contentAt?_node?, ← hview', ← hspot']
    simp only [isKept_node?_iff, hcontent] at hstable
    rw [← funext_iff]
    rw [show second.world.tree.node? = v' from hview', show first.world.tree.node? = v from hview]
    exact hstable

theorem check_again_iff_durable_plain_files :
    let r : CheckRequest :=
      { bases := ["a.properties"], languages := ["de"], checks := [.brackets], update := true }
    let s := r.apply .standard
    let tree : Tree :=
      ⟨[(["a.properties"], .file (.text "k = v\n\nl = v")), (["a_de.properties"], .file (.text "l = w"))]⟩
    let first := (check r).run false tree []
    let second := (check r).run false first.world.tree []
    r.settingsOn? tree [] = some s ∧ s.update = true ∧ s.IsSpread (tree.spot []) ∧ first.failure = none ∧
      r.settingsOn? first.world.tree [] = some s ∧ second.failure = none ∧
      first.world.tree.node? ["a_de.properties"] = some (.file (.text "# ==> k =\n\nl = w")) ∧
      ∀ l, second.world.tree.node? l = first.world.tree.node? l := by
  intro r s tree first second
  have hsettings : r.settingsOn? tree [] = some s := by decide +kernel
  have hupdate : s.update = true := rfl
  have hspread : s.IsSpread (tree.spot []) := .of_ne (by decide +kernel) (by decide +kernel)
  have hfirst : first.failure = none := by decide +kernel
  have hapart : ∀ path ∈ s.targets, ∀ source ∈ r.sources [], tree.spot [] path ≠ tree.spot [] source := by
    decide +kernel
  have hwritten : first.world.tree.node? ["a_de.properties"] = some (.file (.text "# ==> k =\n\nl = w")) := by
    decide +kernel
  have hfiles : s.files = ["a.properties"] := rfl
  have hlanguages : s.languages = ["de"] := rfl
  have hplace : s.languageFile "a.properties" "de" = .ok "a_de.properties" := by decide +kernel
  have hlines : (s.contentIn? tree [] "a_de.properties").map Content.lines =
      some [.entry ⟨"l", .equals, "w", by decide +kernel, by decide⟩] := by decide +kernel
  clear_value r s tree
  obtain ⟨hsources, hsecond⟩ := check_again_iff_durable hsettings hupdate hspread hfirst
  have hagain : r.settingsOn? first.world.tree [] = some s :=
    hsources fun path hpath source hsource l hl hl' => hapart path hpath source hsource (hl.trans hl'.symm)
  have hstable := hsecond hagain
  refine ⟨hsettings, hupdate, hspread, hfirst, hagain, hstable.1, hwritten, (hstable.2.2 ?_).1⟩
  intro base hbase language hlanguage path hpath
  rw [hfiles, List.mem_singleton] at hbase
  rw [hlanguages, List.mem_singleton] at hlanguage
  rw [hbase, hlanguage, hplace] at hpath
  obtain rfl := Except.ok.inj hpath
  rintro e ⟨reference, d, -, hd, he, -⟩
  rw [hd, Option.map_some, Option.some.injEq] at hlines
  rw [hlines, List.mem_singleton, Line.entry.injEq] at he
  rw [he]
  decide +kernel

/-- The key that was indented is no longer so after the first check, and the line is a comment. -/
theorem check_again_drops_marked_key :
    let r : CheckRequest :=
      { bases := ["a.properties"], languages := ["de"], checks := [.brackets], update := true }
    let s := r.apply .standard
    let tree : Tree :=
      ⟨[(["a.properties"], .file (.text " # k = v")), (["a_de.properties"], .file (.text " # k = w"))]⟩
    let first := (check r).run false tree []
    let second := (check r).run false first.world.tree []
    r.settingsOn? tree [] = some s ∧ s.IsValid ∧ s.update = true ∧ s.IsSpread (tree.spot []) ∧
      first.failure = none ∧ r.settingsOn? first.world.tree [] = some s ∧ second.failure = none ∧
      first.world.tree.node? ["a_de.properties"] = some (.file (.text "# k = w")) ∧
      second.world.tree.node? ["a_de.properties"] = some (.file (.text "# ==> # k =")) := by
  intro r s tree first second
  have hspread : s.IsSpread (tree.spot []) := .of_ne (by decide +kernel) (by decide +kernel)
  refine ⟨by decide +kernel, by decide +kernel, by decide, hspread, ?_⟩
  decide +kernel

end Command

end BundleCheck
