import BundleCheck.Proofs.Run.Stages

/-!
# Which files a check writes

A check writes to the places of translations only, and there only the text that is due when the turn of the
translation begins: the text of a new translation where there is no file and one is to be created, the
updated text where there is a file that can be read and updating is on. So a file with a line that cannot be
read stays as it is whatever happens in the rest of the run.
-/

namespace BundleCheck

variable {s : Settings} {directory : Location} {tree : Tree} {st : Stage} {l : Location}

/-- Paths lead where they led in the beginning, and there is the same at a place as in the beginning. -/
structure Stage.Keeps (directory : Location) (tree : Tree) (l : Location) (st : Stage) : Prop where
  spot_start : st.start.spot directory = tree.spot directory
  spot_now : st.now.spot directory = tree.spot directory
  node_start : st.start.node? l = tree.node? l
  node_now : st.now.node? l = tree.node? l

namespace Stage.Keeps

theorem initial (directory : Location) (tree : Tree) (l : Location) : (Stage.initial tree).Keeps directory tree l :=
  ⟨rfl, rfl, rfl, rfl⟩

theorem after (h : st.Keeps directory tree l) {d : Deed}
    (hd : ∀ path text, d = .wrote path text → tree.spot directory path ≠ .file l) :
    (st.after directory d).Keeps directory tree l := by
  have hspot : (d.leave directory st.now).spot directory = tree.spot directory :=
    (d.spot_leave).trans h.spot_now
  have hnode : (d.leave directory st.now).node? l = tree.node? l :=
    (Deed.node?_leave fun path text hwrote => h.spot_now ▸ hd path text hwrote).trans h.node_now
  rw [Stage.after]
  split
  · exact ⟨h.spot_now, h.spot_now, h.node_now, h.node_now⟩
  · exact ⟨h.spot_start, hspot, h.node_start, hnode⟩

end Stage.Keeps

theorem Settings.IsTarget.mem_targets {reference : Bundle} {language path : String}
    (h : s.IsTarget reference language path) : path ∈ s.targets := by
  obtain ⟨hlanguage, base, hbase, -, hpath⟩ := h
  exact BundleCheck.mem_targets hbase hlanguage hpath

/-- No text is due for a file that has a line that cannot be read. -/
theorem Settings.dueText?_eq_none {reference : Bundle} {language path text : String}
    (hl : tree.spot directory path = .file l) (hnode : tree.node? l = some (.file (.text text)))
    (htext : Content.ofText? s.deferralMarker text = none) :
    s.dueText? tree directory reference language path = none := by
  have hread : tree.read directory path = .ok text := Tree.read_eq_ok_iff.2 ⟨l, hl, hnode⟩
  have hnone : s.contentIn? tree directory path = none := by
    rw [contentIn?, hread]
    exact htext
  rw [dueText?_of_present (Tree.isPresent_of_read hread), hnone, Option.map_none, ite_self]

section Deeds

variable {deeds : List Deed} (h : Throughout directory (s.Allows directory) (.initial tree) deeds)

include h

theorem node?_treeAfter_of_not_target (hl : ∀ path ∈ s.targets, tree.spot directory path ≠ .file l) :
    (treeAfter directory tree deeds).node? l = tree.node? l := by
  have hkeeps : (deeds.foldl (Stage.after directory) (.initial tree)).Keeps directory tree l := by
    -- The invariant is about both trees of a stage: a text is due by the one and written to the other.
    refine h.preserves (fun st d hst hd => hst.after ?_) (.initial directory tree l)
    rintro path text rfl
    obtain ⟨reference, language, -, htarget, -⟩ := hd
    exact hl path htarget.mem_targets
  rw [← hkeeps.node_now, Stage.now_foldl]
  rfl

theorem node?_treeAfter_of_malformed {text : String} (hnode : tree.node? l = some (.file (.text text)))
    (htext : Content.ofText? s.deferralMarker text = none) :
    (treeAfter directory tree deeds).node? l = tree.node? l := by
  have hkeeps : (deeds.foldl (Stage.after directory) (.initial tree)).Keeps directory tree l := by
    refine h.preserves (fun st d hst hd => hst.after ?_) (.initial directory tree l)
    -- The file is still the same when the turn begins, so that nothing is due for it.
    rintro path text' rfl hl
    obtain ⟨reference, language, -, -, hdue⟩ := hd
    rw [Settings.dueText?_eq_none (hst.spot_start ▸ hl) (hst.node_start.trans hnode) htext] at hdue
    cases hdue
  rw [← hkeeps.node_now, Stage.now_foldl]
  rfl

theorem treeAfter_eq_self (hcreate : s.create = false) (hupdate : s.update = false) :
    treeAfter directory tree deeds = tree := by
  have hnow : (deeds.foldl (Stage.after directory) (.initial tree)).now = tree := by
    refine h.preserves (J := fun st => st.now = tree) (fun st d hst hd => ?_) rfl
    cases d with
    | said u => rw [Stage.now_after, Deed.leave, hst]
    | wrote path text =>
      obtain ⟨reference, language, -, -, hdue⟩ := hd
      simp only [Settings.dueText?, hcreate, hupdate, Bool.false_eq_true, if_false, ite_self] at hdue
      cases hdue
  have hend : (deeds.foldl (Stage.after directory) (.initial tree)).now = treeAfter directory tree deeds :=
    Stage.now_foldl deeds
  exact hend.symm.trans hnow

end Deeds

namespace Command

/-- Whether a check comes to its end or not, each text that it writes is the one that is due, and all else
stays as it is. -/
theorem writes_of_check (r : CheckRequest) (color : Bool) (tree : Tree) (directory : Location) :
    let outcome := (check r).run color tree directory
    let journal := (check r).journal color tree directory
    outcome.world = journal.world ∧ journal.tree = treeAfter directory tree journal.deeds ∧
      match r.settingsOn? tree directory with
      | none => journal.deeds = []
      | some s =>
        Throughout directory (s.Allows directory) (.initial tree) journal.deeds ∧
        (∀ l, (∀ path ∈ s.targets, tree.spot directory path ≠ .file l) →
          outcome.world.tree.node? l = tree.node? l) ∧
        (∀ l text, tree.node? l = some (.file (.text text)) → Content.ofText? s.deferralMarker text = none →
          outcome.world.tree.node? l = tree.node? l) ∧
        (s.create = false → s.update = false → outcome.world.tree = tree) := by
  intro outcome journal
  obtain ⟨deeds, result, hcourse⟩ := exists_checkCourse r color tree directory
  have hjournal : journal = _ := journal_of_course hcourse
  have hworld : outcome.world = ⟨treeAfter directory tree deeds, directory, utterances deeds⟩ :=
    (congrArg Outcome.world (run_of_course hcourse)).trans (outcomeOf_world _ _)
  rw [hworld, hjournal]
  refine ⟨rfl, rfl, ?_⟩
  rw [CheckRequest.settingsOn?_eq]
  cases hcourse with
  | unsettled hload =>
    rw [hload]
    rfl
  | settled hload hrest =>
    rw [hload]
    have hallows := hrest.allows
    exact ⟨hallows, fun l => node?_treeAfter_of_not_target hallows,
      fun l text => node?_treeAfter_of_malformed hallows, treeAfter_eq_self hallows⟩

/-- One translation is updated, one is malformed, and one is created. The last is written twice. -/
theorem writes_of_check_one_of_each :
    let r : CheckRequest :=
      { bases := ["a.properties"], languages := ["de", "fr", "it"], checks := [.brackets], update := true
        create := true }
    let s := r.apply .standard
    let tree : Tree :=
      ⟨[(["a.properties"], .file (.text "k = v\nl = w")), (["a_de.properties"], .file (.text "l = x")),
        (["a_fr.properties"], .file (.text "l"))]⟩
    let outcome := (check r).run false tree []
    let journal := (check r).journal false tree []
    Throughout [] (s.Allows []) (.initial tree) journal.deeds ∧
      outcome.world.tree.node? ["a_fr.properties"] = some (.file (.text "l")) ∧
      (journal.deeds.filterMap fun
        | .wrote path text => some (path, text)
        | .said _ => none) =
          [("a_de.properties", "# ==> k =\nl = x"), ("a_it.properties", "# ==> k =\n# ==> l ="),
            ("a_it.properties", "# ==> k =\n# ==> l =")] ∧
      outcome.world.tree.node? ["a_de.properties"] = some (.file (.text "# ==> k =\nl = x")) ∧
      outcome.world.tree.node? ["a_it.properties"] = some (.file (.text "# ==> k =\n# ==> l =")) := by
  intro r s tree outcome journal
  have hsettings : r.settingsOn? tree [] = some s := by decide +kernel
  have hnode : tree.node? ["a_fr.properties"] = some (.file (.text "l")) := by decide
  have hmalformed : Content.ofText? s.deferralMarker "l" = none := by decide +kernel
  refine ⟨?_, ?_, by decide +kernel, by decide +kernel, by decide +kernel⟩
  all_goals
    clear_value r s tree
    obtain ⟨-, -, hwrites⟩ := writes_of_check r false tree []
    rw [hsettings] at hwrites
  · exact hwrites.1
  · exact (hwrites.2.2.1 _ _ hnode hmalformed).trans hnode

end Command

end BundleCheck
