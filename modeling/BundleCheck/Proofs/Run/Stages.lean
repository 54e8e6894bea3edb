import BundleCheck.Proofs.Bundle.Succession
import BundleCheck.Proofs.Run.Account
import BundleCheck.Proofs.Run.Stability

/-!
# Stages of a run

Each file has its turn, and the turn ends with the report on that file. What is done in it goes by the tree
at its beginning, and for a translation by the reference that was reported last. A stage is what the deeds
so far tell about that, and with each deed of a check it can be said what makes it a right one at its stage.
-/

namespace BundleCheck

structure Stage where
  /-- The reference that was reported last. -/
  reference : Option Bundle
  /-- The tree at the beginning of the turn. -/
  start : Tree
  now : Tree

namespace Stage

def initial (tree : Tree) : Stage := ⟨none, tree, tree⟩

/-- The stage after a deed. A bundle without a language is a reference. -/
def after (directory : Location) (st : Stage) (d : Deed) : Stage :=
  match d.document? with
  | some b => ⟨if b.language = none then some b else st.reference, st.now, st.now⟩
  | none => { st with now := d.leave directory st.now }

variable {directory : Location} {st : Stage}

theorem after_wrote (path text : String) :
    st.after directory (.wrote path text) = { st with now := Deed.leave directory st.now (.wrote path text) } := rfl

theorem after_reported (t : Task) (b : Bundle) :
    st.after directory (t.reported b) =
      ⟨if b.language = none then some b else st.reference, st.now, st.now⟩ := rfl

theorem now_after (d : Deed) : (st.after directory d).now = d.leave directory st.now := by
  rcases d with ⟨path, text⟩ | ⟨p, text | b | - | - | -⟩ <;> rfl

theorem now_foldl (deeds : List Deed) :
    (deeds.foldl (after directory) st).now = treeAfter directory st.now deeds := by
  induction deeds generalizing st with
  | nil => rfl
  | cons d rest ih => rw [List.foldl_cons, ih, now_after, treeAfter, treeAfter, List.foldl_cons]

end Stage

/-- Every deed has the property at the stage that those before it lead to. -/
def Throughout (directory : Location) (P : Stage → Deed → Prop) (st : Stage) (deeds : List Deed) : Prop :=
  ∀ before d after, deeds = before ++ d :: after → P (before.foldl (Stage.after directory) st) d

section Throughout

variable {directory : Location} {P : Stage → Deed → Prop} {st : Stage} {deeds others : List Deed}

theorem throughout_nil : Throughout directory P st [] := by
  intro before d after h
  cases before <;> cases h

theorem throughout_cons_iff {d : Deed} :
    Throughout directory P st (d :: deeds) ↔ P st d ∧ Throughout directory P (st.after directory d) deeds := by
  constructor
  · intro h
    refine ⟨h [] d deeds rfl, fun before d' after heq => h (d :: before) d' after ?_⟩
    rw [heq, List.cons_append]
  · rintro ⟨hd, hrest⟩ before d' after h
    cases before with
    | nil =>
      obtain ⟨rfl, rfl⟩ := List.cons.inj h
      exact hd
    | cons first before =>
      obtain ⟨rfl, rfl⟩ := List.cons.inj h
      exact hrest before d' after rfl

theorem Throughout.cons {d : Deed} (hd : P st d) (hrest : Throughout directory P (st.after directory d) deeds) :
    Throughout directory P st (d :: deeds) :=
  throughout_cons_iff.2 ⟨hd, hrest⟩

theorem Throughout.append (h : Throughout directory P st deeds)
    (hothers : Throughout directory P (deeds.foldl (Stage.after directory) st) others) :
    Throughout directory P st (deeds ++ others) := by
  induction deeds generalizing st with
  | nil => exact hothers
  | cons d rest ih =>
    obtain ⟨hd, hrest⟩ := throughout_cons_iff.1 h
    exact .cons hd (ih hrest hothers)

/-- What every right deed preserves is preserved by all of them. -/
theorem Throughout.preserves {J : Stage → Prop} (h : Throughout directory P st deeds)
    (hstep : ∀ st d, J st → P st d → J (st.after directory d)) (hJ : J st) :
    J (deeds.foldl (Stage.after directory) st) := by
  induction deeds generalizing st with
  | nil => exact hJ
  | cons d rest ih =>
    obtain ⟨hd, hrest⟩ := throughout_cons_iff.1 h
    exact ih hrest (hstep st d hJ hd)

variable (st) in
/-- What holds throughout each step does so throughout the sequence, if each step hands on what the next one
needs. -/
theorem Successive.throughout {α : Type} {step : α → Tree → List Deed → Except Failure Nat → Prop}
    {J : Stage → Prop} {as : List α} {result : Except Failure Nat}
    (hstep : ∀ a ∈ as, ∀ (st : Stage) deeds result, J st → step a st.now deeds result →
      Throughout directory P st deeds ∧ ∀ n, result = .ok n → J (deeds.foldl (Stage.after directory) st))
    (hJ : J st) (h : Successive directory step as st.now deeds result) :
    Throughout directory P st deeds ∧ ∀ n, result = .ok n → J (deeds.foldl (Stage.after directory) st) := by
  generalize htree : st.now = tree at h
  induction h generalizing st with
  | nil => exact ⟨throughout_nil, fun _ _ => hJ⟩
  | @next a rest tree deeds others n result hfirst hrest ih =>
    subst htree
    obtain ⟨hdeeds, hnext⟩ := hstep a List.mem_cons_self st deeds (.ok n) hJ hfirst
    obtain ⟨hothers, hend⟩ :=
      ih _ (fun b hb => hstep b (List.mem_cons_of_mem a hb)) (hnext n rfl) (Stage.now_foldl deeds)
    refine ⟨hdeeds.append hothers, fun m hm => ?_⟩
    rw [List.foldl_append]
    cases result with
    | ok k => exact hend k rfl
    | error f => cases hm
  | @stop a rest tree deeds f hfirst =>
    subst htree
    exact hstep a List.mem_cons_self st deeds (.error f) hJ hfirst

end Throughout

/-! ### What is done at a stage -/

namespace Settings

/-- The path is that of the translation of a reference into a language. -/
def IsTarget (s : Settings) (reference : Bundle) (language path : String) : Prop :=
  language ∈ s.languages ∧ ∃ base ∈ s.files, reference.file = some base ∧ s.languageFile base language = .ok path

/-- The file at the path is missing and not to be created, or it has a line that cannot be read. -/
def IsUnusable (s : Settings) (tree : Tree) (directory : Location) (path : String) : Prop :=
  tree.isPresent directory path = false ∧ s.create = false ∨
    tree.isPresent directory path = true ∧ s.contentIn? tree directory path = none

/-- The text that the file at the path is given in the turn of a translation, if it is given one. -/
def dueText? (s : Settings) (start : Tree) (directory : Location) (reference : Bundle) (language path : String) :
    Option String :=
  if start.isPresent directory path then
    if s.update then (s.contentIn? start directory path).map fun d => (d.update s reference.content).text else none
  else if s.create then some (Bundle.createFrom s reference language).content.text
  else none

/-- The file at the path has been given its text, or there was none to give and all is as it was. -/
def IsServed (s : Settings) (directory : Location) (st : Stage) (reference : Bundle) (language path : String) :
    Prop :=
  match s.dueText? st.start directory reference language path with
  | some text => st.now.read directory path = .ok text
  | none => st.now = st.start

/-- What is written is the text that is due for a translation. -/
def AllowsText (s : Settings) (directory : Location) (st : Stage) (path text : String) : Prop :=
  ∃ reference language, st.reference = some reference ∧ s.IsTarget reference language path ∧
    s.dueText? st.start directory reference language path = some text

/-- What is reported is a base file as it is, or a translation that has been served. -/
def AllowsReport (s : Settings) (directory : Location) (st : Stage) (b : Bundle) : Prop :=
  match b.language with
  | none => ∃ base ∈ s.files, b.file = some base ∧ s.contentIn? st.now directory base = some b.content
  | some language => ∃ reference path, st.reference = some reference ∧ s.IsTarget reference language path ∧
      b.file = some path ∧ s.IsServed directory st reference language path ∧
        (s.IsUnusable st.start directory path → b.report.errors = 1 ∧ b.report.warnings = 0)

def Allows (s : Settings) (directory : Location) (st : Stage) : Deed → Prop
  | .wrote path text => s.AllowsText directory st path text
  | .said ⟨p, .report b⟩ => p.fatal = s.fatal ∧ s.AllowsReport directory st b
  | .said _ => True

section Due

variable {s : Settings} {start : Tree} {directory : Location} {st : Stage} {reference : Bundle}
  {language path text : String}

theorem dueText?_of_absent (h : start.isPresent directory path = false) :
    s.dueText? start directory reference language path =
      if s.create then some (Bundle.createFrom s reference language).content.text else none := by
  rw [dueText?, h]
  rfl

theorem dueText?_of_present (h : start.isPresent directory path = true) :
    s.dueText? start directory reference language path =
      if s.update then (s.contentIn? start directory path).map fun d => (d.update s reference.content).text
      else none := by
  rw [dueText?, if_pos h]

theorem not_isUnusable_of_absent (h : start.isPresent directory path = false) (hcreate : s.create = true) :
    ¬ s.IsUnusable start directory path := by
  rintro (⟨-, hoff⟩ | ⟨hpresent, -⟩)
  · cases hoff.symm.trans hcreate
  · cases hpresent.symm.trans h

theorem not_isUnusable_of_present {d : Content} (h : start.isPresent directory path = true)
    (hcontent : s.contentIn? start directory path = some d) : ¬ s.IsUnusable start directory path := by
  rintro (⟨habsent, -⟩ | ⟨-, hnone⟩)
  · cases habsent.symm.trans h
  · cases hnone.symm.trans hcontent

theorem isServed_of_eq_some (hdue : s.dueText? st.start directory reference language path = some text)
    (hread : st.now.read directory path = .ok text) : s.IsServed directory st reference language path := by
  rw [IsServed, hdue]
  exact hread

theorem isServed_of_eq_none (hdue : s.dueText? st.start directory reference language path = none)
    (hnow : st.now = st.start) : s.IsServed directory st reference language path := by
  rw [IsServed, hdue]
  exact hnow

end Due

end Settings

/-- What has been written is read back. -/
theorem Tree.read_of_write {tree tree' : Tree} {directory : Location} {path text : String}
    (h : tree.write directory path text = .ok tree') : tree'.read directory path = .ok text := by
  obtain ⟨l, hl, rfl⟩ := write_eq_ok_iff.1 h
  have hplace := node?_of_spot_eq_file hl
  refine read_eq_ok_iff.2 ⟨l, (spot_put hplace).trans hl, ?_⟩
  rw [node?_put tree (ne_nil_of_node? hplace), Function.update_self]

/-! ### Bundles -/

namespace Bundle

variable {s : Settings} {b b' : Bundle} {text : String}

theorem eq_of_read {stop : Option Stop} (h : b.read s text = (b', stop)) :
    b'.file = b.file ∧ b'.language = b.language ∧
      match stop with
      | none => Content.ofText? s.deferralMarker text = some b'.content
      | some _ => Content.ofText? s.deferralMarker text = none ∧ b'.report = .empty := by
  rw [read] at h
  rw [Content.ofText?]
  rcases hreading : Reading.ofText s.deferralMarker text with ⟨reading, stop'⟩
  rw [hreading] at h
  obtain ⟨rfl, rfl⟩ := Prod.mk.inj h
  cases stop' <;> exact ⟨rfl, rfl, by simp⟩

end Bundle

/-! ### Turns -/

/-- The turn of a translation begins. -/
structure Stage.Awaits (reference : Bundle) (st : Stage) : Prop where
  reference : st.reference = some reference
  start : st.start = st.now

section Turns

variable {t : Task} {directory : Location} {reference b : Bundle} {base language path : String}
  {deeds : List Deed} {result : Except Failure Nat} {st : Stage}

variable (t directory) in
theorem awaits_after_report (hreference : st.reference = some reference) (hlanguage : b.language = some language) :
    (st.after directory (t.reported b)).Awaits reference where
  reference := by
    rw [Stage.after_reported, hlanguage]
    exact hreference
  start := rfl

theorem allows_report (hfatal : t.printer.fatal = t.settings.fatal) (hreference : st.reference = some reference)
    (htarget : t.settings.IsTarget reference language path) (hfile : b.file = some path)
    (hlanguage : b.language = some language) (hserved : t.settings.IsServed directory st reference language path)
    (hunusable : t.settings.IsUnusable st.start directory path → b.report.errors = 1 ∧ b.report.warnings = 0) :
    t.settings.Allows directory st (t.reported b) := by
  refine ⟨hfatal, ?_⟩
  rw [Settings.AllowsReport, hlanguage]
  exact ⟨reference, path, hreference, htarget, hfile, hserved, hunusable⟩

variable (st) in
theorem UsableCourse.allows (h : UsableCourse t directory reference path st.now b deeds result)
    (hfatal : t.printer.fatal = t.settings.fatal) (hreference : st.reference = some reference)
    (htarget : t.settings.IsTarget reference language path) (hfile : b.file = some path)
    (hlanguage : b.language = some language) (husable : ¬ t.settings.IsUnusable st.start directory path)
    (hserved : t.settings.update = false → t.settings.IsServed directory st reference language path)
    (hdue : t.settings.update = true → t.settings.dueText? st.start directory reference language path =
      some (b.content.update t.settings reference.content).text) :
    Throughout directory (t.settings.Allows directory) st deeds ∧
      ∀ n, result = .ok n → (deeds.foldl (Stage.after directory) st).Awaits reference := by
  cases h with
  | checked hcheck hupdate =>
    obtain ⟨report, rfl⟩ := Bundle.eq_of_check hcheck
    refine ⟨.cons ?_ throughout_nil, fun _ _ => awaits_after_report t directory hreference hlanguage⟩
    exact allows_report hfatal hreference htarget hfile hlanguage (hserved hupdate) fun h => absurd h husable
  | @updated b' tree' hcheck hupdate hwrite =>
    obtain ⟨report, rfl⟩ := Bundle.eq_of_check hcheck
    have htext : st.now.write directory path (b.content.update t.settings reference.content).text = .ok tree' :=
      hwrite
    have hwrote : (st.after directory (.wrote path
        (b.content.update t.settings reference.content).text)).now = tree' := by
      rw [Stage.after_wrote, Deed.leave, htext]
    refine ⟨.cons ⟨reference, language, hreference, htarget, hdue hupdate⟩
      (.cons trivial (.cons ?_ throughout_nil)), fun _ _ => ?_⟩
    · refine allows_report hfatal hreference htarget hfile hlanguage ?_ fun h => absurd h husable
      exact Settings.isServed_of_eq_some (hdue hupdate) (hwrote ▸ Tree.read_of_write hwrite)
    · exact awaits_after_report t directory hreference hlanguage
  | unwritten hcheck hupdate hwrite =>
    obtain ⟨report, rfl⟩ := Bundle.eq_of_check hcheck
    exact ⟨.cons ⟨reference, language, hreference, htarget, hdue hupdate⟩ throughout_nil, fun _ hn => by cases hn⟩

theorem TranslationCourse.allows
    (h : TranslationCourse t directory reference base language st.now deeds result)
    (hfatal : t.printer.fatal = t.settings.fatal) (hbase : base ∈ t.settings.files)
    (hlanguage : language ∈ t.settings.languages) (hfile : reference.file = some base)
    (hcoherent : reference.content.Coherent) (hturn : st.Awaits reference) :
    Throughout directory (t.settings.Allows directory) st deeds ∧
      ∀ n, result = .ok n → (deeds.foldl (Stage.after directory) st).Awaits reference := by
  have htarget : ∀ {path}, t.settings.languageFile base language = .ok path →
      t.settings.IsTarget reference language path := fun hpath => ⟨hlanguage, base, hbase, hfile, hpath⟩
  have hcreated : ∀ {path}, st.now.isPresent directory path = false → t.settings.create = true →
      t.settings.dueText? st.start directory reference language path =
        some (Bundle.createFrom t.settings reference language).content.text := by
    intro path habsent hcreate
    rw [hturn.start, Settings.dueText?_of_absent habsent, if_pos hcreate]
  cases h with
  | nameless hpath => exact ⟨throughout_nil, fun _ hn => by cases hn⟩
  | @missing path b hpath habsent hcreate hb =>
    subst hb
    refine ⟨.cons ?_ throughout_nil, fun _ _ => awaits_after_report t directory hturn.reference rfl⟩
    refine allows_report hfatal hturn.reference (htarget hpath) rfl rfl ?_ fun _ => ⟨rfl, rfl⟩
    refine Settings.isServed_of_eq_none ?_ hturn.start.symm
    rw [hturn.start, Settings.dueText?_of_absent habsent, hcreate]
    rfl
  | uncreated hpath habsent hcreate hwrite =>
    refine ⟨.cons ?_ throughout_nil, fun _ hn => by cases hn⟩
    exact ⟨reference, language, hturn.reference, htarget hpath, hcreated habsent hcreate⟩
  | @created path tree' deeds result hpath habsent hcreate hwrite hrest =>
    -- The rest of the turn is still at the beginning of it, but for the tree.
    have hwrote : st.after directory
        (.wrote path (Bundle.createFrom t.settings reference language).content.text) = { st with now := tree' } := by
      rw [Stage.after_wrote, Deed.leave, hwrite]
    have husable : ¬ t.settings.IsUnusable st.start directory path :=
      hturn.start ▸ Settings.not_isUnusable_of_absent habsent hcreate
    have hagain : ((Bundle.createFrom t.settings reference language).content.update t.settings
        reference.content).text = (Bundle.createFrom t.settings reference language).content.text :=
      congrArg Content.text (Content.update_update .empty hcoherent)
    obtain ⟨hdeeds, hend⟩ := hrest.allows { st with now := tree' } hfatal hturn.reference
      (htarget hpath) rfl rfl husable
      (fun _ => Settings.isServed_of_eq_some (hcreated habsent hcreate) (Tree.read_of_write hwrite))
      (fun _ => hagain ▸ hcreated habsent hcreate)
    rw [List.foldl_cons, hwrote]
    refine ⟨.cons ⟨reference, language, hturn.reference, htarget hpath, hcreated habsent hcreate⟩ ?_, hend⟩
    rw [hwrote]
    exact .cons trivial hdeeds
  | unreadable hpath hpresent hread => exact ⟨throughout_nil, fun _ hn => by cases hn⟩
  | @malformed path text stop half b hpath hread hstop hb =>
    obtain ⟨hhalf, hhalfLanguage, hnone, hempty⟩ := Bundle.eq_of_read hstop
    have hunread : t.settings.contentIn? st.now directory path = none := by
      rw [Settings.contentIn?, hread]
      exact hnone
    subst hb
    refine ⟨.cons ?_ throughout_nil, fun _ _ => awaits_after_report t directory hturn.reference hhalfLanguage⟩
    refine allows_report hfatal hturn.reference (htarget hpath) hhalf hhalfLanguage ?_ fun _ => ?_
    · refine Settings.isServed_of_eq_none ?_ hturn.start.symm
      rw [hturn.start, Settings.dueText?_of_present (Tree.isPresent_of_read hread), hunread, Option.map_none, ite_self]
    · rw [Opened.refused, hempty]
      exact ⟨rfl, rfl⟩
  | @legible path text b deeds result hpath hread hall hrest =>
    obtain ⟨hb, hbLanguage, hcontent⟩ := Bundle.eq_of_read hall
    have hfound : t.settings.contentIn? st.start directory path = some b.content := by
      rw [hturn.start, Settings.contentIn?, hread]
      exact hcontent
    have hpresent : st.start.isPresent directory path = true := by
      rw [hturn.start]
      exact Tree.isPresent_of_read hread
    refine hrest.allows st hfatal hturn.reference (htarget hpath) hb hbLanguage
      (Settings.not_isUnusable_of_present hpresent hfound) (fun hupdate => ?_) fun hupdate => ?_
    · refine Settings.isServed_of_eq_none ?_ hturn.start.symm
      rw [Settings.dueText?_of_present hpresent, hupdate]
      rfl
    · rw [Settings.dueText?_of_present hpresent, if_pos hupdate, hfound, Option.map_some]

theorem BaseCourse.allows (h : BaseCourse t directory base st.now deeds result)
    (hfatal : t.printer.fatal = t.settings.fatal) (hbase : base ∈ t.settings.files) :
    Throughout directory (t.settings.Allows directory) st deeds := by
  cases h with
  | missing habsent => exact throughout_nil
  | unreadable hpresent hread => exact throughout_nil
  | patternless hread hfault => exact throughout_nil
  | malformed hread hpattern hstop => exact throughout_nil
  | @legible text b reference deeds result hread hpattern hall hcheck hrest =>
    obtain ⟨hfile, hlanguage, hcontent⟩ := Bundle.eq_of_read hall
    obtain ⟨report, rfl⟩ := Bundle.eq_of_check hcheck
    have hfound : t.settings.contentIn? st.now directory base = some b.content := by
      rw [Settings.contentIn?, hread]
      exact hcontent
    refine .cons ⟨hfatal, ?_⟩ (Successive.throughout (st.after directory (t.reported { b with report }))
      (J := Stage.Awaits { b with report }) ?_ ?_ hrest).1
    · rw [Settings.AllowsReport, hlanguage]
      exact ⟨base, hbase, hfile, hfound⟩
    · intro language hmem st' deeds' result' hturn hcourse
      exact hcourse.allows hfatal hbase hmem hfile (Content.coherent_of_ofText? hcontent) hturn
    · rw [Stage.after_reported, hlanguage]
      exact ⟨rfl, rfl⟩

end Turns

theorem ProjectCourse.allows {color : Bool} {s : Settings} {source : Option String} {directory : Location}
    {tree : Tree} {deeds : List Deed} {result : Except Failure ExitStatus}
    (h : ProjectCourse color s source directory tree deeds result) :
    Throughout directory (s.Allows directory) (Stage.initial tree) deeds := by
  cases h with
  | invalid hfault => exact throughout_nil
  | idle hvalid hfiles => exact throughout_nil
  | @checked suite deeds result hvalid hfiles hsuite hrest =>
    refine .cons trivial (.cons trivial (Successive.throughout (.initial tree) (J := fun _ => True) ?_ trivial hrest).1)
    exact fun base hbase st deeds result _ hcourse => ⟨hcourse.allows rfl hbase, fun _ _ => trivial⟩

end BundleCheck
