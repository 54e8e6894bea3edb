import BundleCheck.Proofs.Files.Likeness
import BundleCheck.Proofs.Run.Account
import BundleCheck.Proofs.Run.Stability

/-!
# Updating says nothing

Two checks that differ in updating alone go over the same files. The one that updates has changed what some
translations hold by then, but these have had their turn, and a report is about the file as it was read. So
the trees stay alike in all that is still to be looked at, and both checks say the same and end in the same
way, save for the notes on what has been updated.
-/

namespace BundleCheck

/-! ### What is shown -/

/-- The note that a translation has been updated. -/
def Event.isUpdateNote : Event → Bool
  | .note text => "Updated ".toList.isPrefixOf text.toList
  | _ => false

/-- The text of what is said, unless it is such a note. -/
def Utterance.shown? (u : Utterance) : Option String :=
  if u.event.isUpdateNote then none else some (u.event.text u.printer)

/-- What a run shows, but for the notes on updates. -/
def World.transcript (w : World) : List String := w.said.filterMap Utterance.shown?

def transcript (deeds : List Deed) : List String := (utterances deeds).filterMap Utterance.shown?

theorem transcript_append (deeds others : List Deed) :
    transcript (deeds ++ others) = transcript deeds ++ transcript others := by
  rw [transcript, utterances, List.filterMap_append, List.filterMap_append]
  rfl

theorem transcript_said (u : Utterance) (deeds : List Deed) :
    transcript (.said u :: deeds) = u.shown?.toList ++ transcript deeds := by
  rw [transcript, utterances, List.filterMap_cons_some (show Deed.utterance? (.said u) = some u from rfl),
    List.filterMap_cons]
  cases u.shown? <;> rfl

theorem transcript_wrote (path text : String) (deeds : List Deed) :
    transcript (.wrote path text :: deeds) = transcript deeds := rfl

theorem transcript_noted_update (t : Task) (path : String) (deeds : List Deed) :
    transcript (t.noted ("Updated " ++ path) :: deeds) = transcript deeds := by
  have hnote : Event.isUpdateNote (.note ("Updated " ++ path)) = true := by
    rw [Event.isUpdateNote, String.toList_append, List.isPrefixOf_iff_prefix]
    exact List.prefix_append _ _
  rw [Task.noted, transcript_said, Utterance.shown?, if_pos hnote]
  rfl

/-! ### Turns -/

def Settings.updating (s : Settings) : Settings := { s with update := true }

def Task.updating (t : Task) : Task := { t with settings := t.settings.updating }

/-- A step is matched by one on the other tree. What is said and the result are the same, and the trees stay
alike but for files that are the step's own. -/
def Matched (directory : Location) (differ own : Location → Prop) (tree tree' : Tree)
    (step' : List Deed → Except Failure Nat → Prop) (deeds : List Deed) (result : Except Failure Nat) : Prop :=
  ∃ deeds', step' deeds' result ∧ transcript deeds' = transcript deeds ∧
    Tree.Alike (fun l => differ l ∨ own l) (treeAfter directory tree deeds) (treeAfter directory tree' deeds')

section Turns

variable {t : Task} {directory : Location} {reference b : Bundle} {base language path : String}
  {tree tree' : Tree} {deeds : List Deed} {result : Except Failure Nat} {differ own : Location → Prop} {l : Location}

theorem UsableCourse.updating (h : UsableCourse t directory reference path tree b deeds result)
    (hoff : t.settings.update = false) (halike : Tree.Alike differ tree tree')
    (hl : tree.spot directory path = .file l) {c : FileContent} (hnode : tree.node? l = some (.file c)) :
    Matched directory differ (· = l) tree tree' (UsableCourse t.updating directory reference path tree' b) deeds
      result := by
  cases h with
  | updated hcheck hupdate hwrite => cases hoff.symm.trans hupdate
  | unwritten hcheck hupdate hwrite => cases hoff.symm.trans hupdate
  | @checked b' hcheck hupdate =>
    have hwrite : tree'.write directory path (b'.update t.updating.settings reference).content.text = .ok _ :=
      Tree.write_eq_ok_iff.2 ⟨l, (congrFun halike.spot path).trans hl, rfl⟩
    refine ⟨_, .updated (t := t.updating) hcheck rfl hwrite, ?_, ?_⟩
    · rw [transcript_wrote, transcript_noted_update]
      rfl
    · rw [treeAfter_wrote_ok hwrite]
      exact halike.put_other hnode _

theorem TranslationCourse.updating
    (h : TranslationCourse t directory reference base language tree deeds result)
    (hoff : t.settings.update = false) (halike : Tree.Alike differ tree tree')
    (hfree : ∀ l, ownsAsLanguage t.settings (tree.spot directory) base language l → ¬ differ l) :
    Matched directory differ (ownsAsLanguage t.settings (tree.spot directory) base language) tree tree'
      (TranslationCourse t.updating directory reference base language tree') deeds result := by
  have hread : ∀ {path}, t.settings.languageFile base language = .ok path →
      tree'.read directory path = tree.read directory path := fun hpath =>
    halike.read fun l hl => hfree l ⟨_, hpath, hl⟩
  have hstill : Tree.Alike (fun l => differ l ∨ ownsAsLanguage t.settings (tree.spot directory) base language l)
      tree tree' := halike.mono fun _ => .inl
  cases h with
  | nameless hpath => exact ⟨_, .nameless (t := t.updating) hpath, rfl, hstill⟩
  | missing hpath habsent hcreate hb =>
    exact ⟨_, .missing (t := t.updating) hpath (halike.isPresent.trans habsent) hcreate hb, rfl, hstill⟩
  | uncreated hpath habsent hcreate hwrite =>
    have hwrite' := halike.write_error hwrite (Bundle.createFrom t.updating.settings reference language).content.text
    refine ⟨_, .uncreated (t := t.updating) hpath (halike.isPresent.trans habsent) hcreate hwrite', rfl, ?_⟩
    rw [treeAfter_wrote_error hwrite, treeAfter_wrote_error hwrite']
    exact hstill
  | @created path written deeds result hpath habsent hcreate hwrite hrest =>
    obtain ⟨l, hl, rfl⟩ := Tree.write_eq_ok_iff.1 hwrite
    have hplace := Tree.node?_of_spot_eq_file hl
    have hwrite' : tree'.write directory path
        (Bundle.createFrom t.updating.settings reference language).content.text = .ok _ :=
      Tree.write_eq_ok_iff.2 ⟨l, (congrFun halike.spot path).trans hl, rfl⟩
    have hnode : (tree.put l (.file (.text (Bundle.createFrom t.settings reference language).content.text))).node? l =
        some (.file (.text (Bundle.createFrom t.settings reference language).content.text)) := by
      rw [Tree.node?_put tree (Tree.ne_nil_of_node? hplace), Function.update_self]
    obtain ⟨deeds', hrest', hsaid, hafter⟩ :=
      hrest.updating hoff (halike.put_both hplace _) ((Tree.spot_put hplace).trans hl) hnode
    refine ⟨_, .created (t := t.updating) hpath (halike.isPresent.trans habsent) hcreate hwrite' hrest', ?_, ?_⟩
    · rw [transcript_wrote, transcript_wrote, Task.noted, Task.noted, transcript_said, transcript_said, hsaid]
      rfl
    · rw [treeAfter_wrote_ok hwrite, treeAfter_wrote_ok hwrite']
      refine hafter.mono fun k hk => hk.imp_right ?_
      rintro rfl
      exact ⟨path, hpath, hl⟩
  | unreadable hpath hpresent hfound =>
    exact ⟨_, .unreadable (t := t.updating) hpath (halike.isPresent.trans hpresent) ((hread hpath).trans hfound),
      rfl, hstill⟩
  | malformed hpath hfound hstop hb =>
    exact ⟨_, .malformed (t := t.updating) hpath ((hread hpath).trans hfound) hstop hb, rfl, hstill⟩
  | @legible path text b deeds result hpath hfound hall hrest =>
    obtain ⟨l, hl, hnode⟩ := Tree.read_eq_ok_iff.1 hfound
    obtain ⟨deeds', hrest', hsaid, hafter⟩ := hrest.updating hoff halike hl hnode
    refine ⟨deeds', .legible (t := t.updating) hpath ((hread hpath).trans hfound) hall hrest', hsaid, ?_⟩
    refine hafter.mono fun k hk => hk.imp_right ?_
    rintro rfl
    exact ⟨path, hpath, hl⟩

theorem Successive.matched {α : Type} {step step' : α → Tree → List Deed → Except Failure Nat → Prop}
    (own seen : α → Location → Prop) {ways : Ways} {as : List α}
    (hstep : ∀ a ∈ as, ∀ {differ : Location → Prop} {tree tree' : Tree} {deeds result},
      tree.spot directory = ways → (∀ l, own a l ∨ seen a l → ¬ differ l) → Tree.Alike differ tree tree' →
        step a tree deeds result → Matched directory differ (own a) tree tree' (step' a tree') deeds result)
    (hown : as.Pairwise fun a b => ∀ l, own a l → ¬ own b l)
    (hseen : ∀ a ∈ as, ∀ b ∈ as, ∀ l, own a l → ¬ seen b l) (hways : tree.spot directory = ways)
    (hfree : ∀ a ∈ as, ∀ l, own a l ∨ seen a l → ¬ differ l) (halike : Tree.Alike differ tree tree')
    (h : Successive directory step as tree deeds result) :
    Matched directory differ (fun l => ∃ a ∈ as, own a l) tree tree' (Successive directory step' as tree') deeds
      result := by
  induction h generalizing tree' differ with
  | nil => exact ⟨_, .nil, rfl, halike.mono fun _ => .inl⟩
  | @next a rest tree deeds others n result hfirst hrest ih =>
    obtain ⟨hownHead, hownRest⟩ := List.pairwise_cons.1 hown
    obtain ⟨deeds', hfirst', hsaid, hafter⟩ :=
      hstep a List.mem_cons_self hways (hfree a List.mem_cons_self) halike hfirst
    -- What the first step has changed is nothing that the others own or look at.
    have hfreeRest : ∀ b ∈ rest, ∀ l, own b l ∨ seen b l → ¬ (differ l ∨ own a l) := by
      rintro b hb l hl (hdiffer | howned)
      · exact hfree b (List.mem_cons_of_mem a hb) l hl hdiffer
      · rcases hl with hl | hl
        · exact hownHead b hb l howned hl
        · exact hseen a List.mem_cons_self b (List.mem_cons_of_mem a hb) l howned hl
    obtain ⟨others', hrest', hsaidRest, hafterRest⟩ :=
      ih (fun b hb => hstep b (List.mem_cons_of_mem a hb)) hownRest
        (fun b hb c hc => hseen b (List.mem_cons_of_mem a hb) c (List.mem_cons_of_mem a hc))
        ((spot_treeAfter deeds).trans hways) hfreeRest hafter
    refine ⟨_, .next hfirst' hrest', ?_, ?_⟩
    · rw [transcript_append, transcript_append, hsaid, hsaidRest]
    · rw [treeAfter_append, treeAfter_append]
      refine hafterRest.mono ?_
      rintro l ((hdiffer | howned) | ⟨b, hb, howned⟩)
      · exact .inl hdiffer
      · exact .inr ⟨a, List.mem_cons_self, howned⟩
      · exact .inr ⟨b, List.mem_cons_of_mem a hb, howned⟩
  | @stop a rest tree deeds f hfirst =>
    obtain ⟨deeds', hfirst', hsaid, hafter⟩ :=
      hstep a List.mem_cons_self hways (hfree a List.mem_cons_self) halike hfirst
    exact ⟨deeds', .stop hfirst', hsaid, hafter.mono fun l hl =>
      hl.imp_right fun howned => ⟨a, List.mem_cons_self, howned⟩⟩

theorem BaseCourse.updating (h : BaseCourse t directory base tree deeds result)
    (hoff : t.settings.update = false) (hspread : t.settings.IsSpread (tree.spot directory))
    (hbase : base ∈ t.settings.files) (halike : Tree.Alike differ tree tree')
    (hfree : ∀ l, ownsAsBase t.settings (tree.spot directory) base l ∨ seesAsBase (tree.spot directory) base l →
      ¬ differ l) :
    Matched directory differ (ownsAsBase t.settings (tree.spot directory) base) tree tree'
      (BaseCourse t.updating directory base tree') deeds result := by
  have hread : tree'.read directory base = tree.read directory base := halike.read fun l hl => hfree l (.inr hl)
  have hstill : Tree.Alike (fun l => differ l ∨ ownsAsBase t.settings (tree.spot directory) base l) tree tree' :=
    halike.mono fun _ => .inl
  cases h with
  | missing habsent =>
    exact ⟨_, .missing (t := t.updating) (halike.isPresent.trans habsent), rfl, hstill⟩
  | unreadable hpresent hfound =>
    exact ⟨_, .unreadable (t := t.updating) (halike.isPresent.trans hpresent) (hread.trans hfound), rfl, hstill⟩
  | patternless hfound hfault =>
    exact ⟨_, .patternless (t := t.updating) (hread.trans hfound) hfault, rfl, hstill⟩
  | malformed hfound hpattern hstop =>
    exact ⟨_, .malformed (t := t.updating) (hread.trans hfound) hpattern hstop, rfl, hstill⟩
  | @legible text b reference deeds result hfound hpattern hall hcheck hrest =>
    have hmatched : Matched directory differ (ownsAsBase t.settings (tree.spot directory) base) tree tree'
        (Successive directory (TranslationCourse t.updating.indented directory reference base)
          t.settings.languages tree') deeds result := by
      refine hrest.matched _ (fun _ _ => False) ?_
        (hspread.apart_languages hbase reference.content).own_disjoint (fun _ _ _ _ _ _ => id) rfl ?_ halike
      · intro language _ differ tree₁ tree₁' deeds result hways hfree halike hcourse
        have hstep := hcourse.updating hoff halike fun l hl => hfree l (.inl (hways ▸ hl))
        rw [hways] at hstep
        exact hstep
      · rintro language hlanguage l (howned | hnone)
        · exact hfree l (.inl ⟨language, hlanguage, howned⟩)
        · exact hnone.elim
    obtain ⟨deeds', hrest', hsaid, hafter⟩ := hmatched
    refine ⟨_, .legible (t := t.updating) (hread.trans hfound) hpattern hall hcheck hrest', ?_, hafter⟩
    rw [Task.reported, Task.reported, transcript_said, transcript_said, hsaid]
    rfl

end Turns

theorem ProjectCourse.updating {color : Bool} {s : Settings} {source : Option String} {directory : Location}
    {tree : Tree} {deeds : List Deed} {result : Except Failure ExitStatus}
    (h : ProjectCourse color s source directory tree deeds result) (hoff : s.update = false)
    (hspread : s.IsSpread (tree.spot directory)) :
    ∃ deeds', ProjectCourse color s.updating source directory tree deeds' result ∧
      transcript deeds' = transcript deeds := by
  cases h with
  | invalid hfault => exact ⟨_, .invalid (s := s.updating) hfault, rfl⟩
  | idle hvalid hfiles => exact ⟨_, .idle (s := s.updating) hvalid hfiles, rfl⟩
  | @checked suite deeds result hvalid hfiles hsuite hrest =>
    have hmatched : Matched directory (fun _ => False)
        (fun l => ∃ base ∈ s.files, ownsAsBase s (tree.spot directory) base l) tree tree
        (Successive directory (BaseCourse ⟨s.updating, suite, s.printer color⟩ directory) s.files tree) deeds
          result := by
      refine hrest.matched (ownsAsBase s (tree.spot directory)) (seesAsBase (tree.spot directory)) ?_
        hspread.apart_files.own_disjoint hspread.apart_files.not_seen rfl (fun _ _ _ _ => id) (.refl tree)
      intro base hbase differ tree₁ tree₁' deeds result hways hfree halike hcourse
      have hstep := hcourse.updating hoff (hways ▸ hspread) hbase halike fun l hl => hfree l (hways ▸ hl)
      rw [hways] at hstep
      exact hstep
    obtain ⟨deeds', hrest', hsaid, -⟩ := hmatched
    refine ⟨_, .checked (s := s.updating) hvalid hfiles hsuite hrest', ?_⟩
    rw [transcript_said, transcript_said, transcript_said, transcript_said, hsaid]
    rfl

theorem CheckCourse.updating {r : CheckRequest} {color : Bool} {directory : Location} {tree : Tree}
    {deeds : List Deed} {result : Except Failure ExitStatus}
    (h : CheckCourse { r with update := false } color directory tree deeds result)
    (hspread : ∀ s, r.settingsOn? tree directory = some s → s.IsSpread (tree.spot directory)) :
    ∃ deeds', CheckCourse { r with update := true } color directory tree deeds' result ∧
      transcript deeds' = transcript deeds := by
  cases h with
  | unsettled hload => exact ⟨[], .unsettled hload, rfl⟩
  | @settled loaded deeds result hload hrest =>
    have hsettings : r.settingsOn? tree directory = some (r.apply loaded.settings) := by
      rw [CheckRequest.settingsOn?_eq, show r.loadedOn tree directory = .ok loaded from hload]
      rfl
    have happly : CheckRequest.apply { r with update := true } loaded.settings =
        (CheckRequest.apply { r with update := false } loaded.settings).updating := by
      rw [CheckRequest.apply, CheckRequest.apply, Settings.updating, Bool.or_true]
    cases hon : loaded.settings.update with
    | true =>
      -- The settings ask for updating already, so that both requests are for the same check.
      have hsame : CheckRequest.apply { r with update := false } loaded.settings =
          CheckRequest.apply { r with update := true } loaded.settings := by
        rw [happly, CheckRequest.apply, Settings.updating, hon]
        rfl
      rw [hsame] at hrest
      exact ⟨deeds, .settled hload hrest, rfl⟩
    | false =>
      obtain ⟨deeds', hrest', hsaid⟩ := hrest.updating
        (by rw [CheckRequest.apply, hon]; rfl) ⟨(hspread _ hsettings).distinct, (hspread _ hsettings).ne_base⟩
      rw [← happly] at hrest'
      exact ⟨deeds', .settled hload hrest', hsaid⟩

namespace Command

theorem transcript_run_of_course {r : CheckRequest} {color : Bool} {directory : Location} {tree : Tree}
    {deeds : List Deed} {result : Except Failure ExitStatus} (h : CheckCourse r color directory tree deeds result) :
    ((check r).run color tree directory).world.transcript = transcript deeds := by
  rw [run_of_course h, outcomeOf_world]
  rfl

/-- If no file is the translation for two turns or a base file too, a check with updating on ends as the one
with updating off does and shows the same, but for the notes on updates. -/
theorem update_keeps_verdict (r : CheckRequest) (color : Bool) (tree : Tree) (directory : Location)
    (hspread : ∀ s, r.settingsOn? tree directory = some s → s.IsSpread (tree.spot directory)) :
    let off := (check { r with update := false }).run color tree directory
    let on := (check { r with update := true }).run color tree directory
    on.status = off.status ∧ on.failure = off.failure ∧ on.world.transcript = off.world.transcript := by
  intro off on
  obtain ⟨deeds, result, hoff⟩ := exists_checkCourse { r with update := false } color tree directory
  obtain ⟨deeds', hon, hsaid⟩ := hoff.updating hspread
  have hoffRun : off = _ := run_of_course hoff
  have honRun : on = _ := run_of_course hon
  refine ⟨?_, ?_, ?_⟩
  · rw [honRun, hoffRun]
    cases result <;> rfl
  · rw [honRun, hoffRun]
    cases result <;> rfl
  · rw [transcript_run_of_course hon, transcript_run_of_course hoff, hsaid]

/-- The update drops the key that is dangling, and the report still tells of it. -/
theorem update_keeps_verdict_dangling_key :
    let r : CheckRequest :=
      { bases := ["a.properties"], languages := ["de"], checks := [.danglingKeys], verbose := true }
    let tree : Tree :=
      ⟨[(["a.properties"], .file (.text "k = v")), (["a_de.properties"], .file (.text "k = w\nl = w"))]⟩
    let off := (check { r with update := false }).run false tree []
    let on := (check { r with update := true }).run false tree []
    (∀ s, r.settingsOn? tree [] = some s → s.IsSpread (tree.spot [])) ∧
      off.world.tree.node? ["a_de.properties"] = some (.file (.text "k = w\nl = w")) ∧
      on.world.tree.node? ["a_de.properties"] = some (.file (.text "k = w")) ∧
      off.status = .failure 1 ∧ on.status = .failure 1 ∧ off.world.transcript = on.world.transcript := by
  intro r tree off on
  have hsettings : r.settingsOn? tree [] = some (r.apply .standard) := by decide +kernel
  have hspread : (r.apply .standard).IsSpread (tree.spot []) := .of_ne (by decide +kernel) (by decide +kernel)
  have hoff : off.world.tree.node? ["a_de.properties"] = some (.file (.text "k = w\nl = w")) := by
    decide +kernel
  have hon : on.world.tree.node? ["a_de.properties"] = some (.file (.text "k = w")) := by decide +kernel
  have hstatus : off.status = .failure 1 := by decide +kernel
  have hall : ∀ s, r.settingsOn? tree [] = some s → s.IsSpread (tree.spot []) := fun s hs =>
    Option.some.inj (hsettings.symm.trans hs) ▸ hspread
  clear_value r tree
  obtain ⟨hsame, -, htranscript⟩ := update_keeps_verdict r false tree [] hall
  exact ⟨hall, hoff, hon, hstatus, hsame.trans hstatus, htranscript.symm⟩

end Command

end BundleCheck
