import BundleCheck.Proofs.Check.Composition
import BundleCheck.Proofs.Run.Completion
import BundleCheck.Proofs.Run.Effect

/-!
# Runs and their effects

A run on a directory tree says many things and changes few files. What it changes is the effect of the
settings on the view of the tree: the run comes to its end exactly if the effect does, and leaves the same
view. Where paths lead is the same before and after each step, so the effect of the whole is made up of
those of the steps.
-/

namespace BundleCheck

def World.view (w : World) : View := w.tree.node?

def World.ways (w : World) : Ways := w.tree.spot w.directory

/-- A text has been written at a place. -/
def World.written (w : World) (l : Location) (text : String) : World :=
  { w with tree := w.tree.put l (.file (.text text)) }

theorem World.view_written {w : World} {path : String} {l : Location} (hl : w.ways path = .file l)
    (text : String) : (w.written l text).view = Function.update w.view l (some (.file (.text text))) :=
  Tree.node?_put w.tree (Tree.ne_nil_of_node? (Tree.node?_of_spot_eq_file hl)) _

/-- Paths lead to the same places. -/
structure World.SameWays (w w' : World) : Prop where
  directory : w'.directory = w.directory
  ways : w'.ways = w.ways

namespace World.SameWays

variable {w w' w'' : World}

theorem refl (w : World) : w.SameWays w := ⟨rfl, rfl⟩

theorem trans (h : w.SameWays w') (h' : w'.SameWays w'') : w.SameWays w'' :=
  ⟨h'.directory.trans h.directory, h'.ways.trans h.ways⟩

theorem say (w : World) (said : List Utterance) : w.SameWays { w with said } := ⟨rfl, rfl⟩

theorem written {l : Location} {path : String} (hl : w.ways path = .file l) (text : String) :
    w.SameWays (w.written l text) :=
  ⟨rfl, funext fun _ => Tree.spot_put (Tree.node?_of_spot_eq_file hl)⟩

end World.SameWays

/-- The run comes to its end if the effect does, and leaves its view. -/
def Simulates {α : Type} (x : Run α) (w : World) : Option View → Prop
  | some v => ∃ a w', x.Finishes w a w' ∧ w'.view = v ∧ w.SameWays w'
  | none => ∀ a w', ¬ x.Finishes w a w'

namespace Simulates

variable {α β : Type} {w w' : World}

theorem pure (a : α) (w : World) : Simulates (Pure.pure a : Run α) w (some w.view) :=
  ⟨a, w, Run.finishes_pure a w, rfl, .refl w⟩

theorem bind {x : Run α} {f : α → Run β} {a : α} {o : Option View} (hx : x.Finishes w a w')
    (hways : w.SameWays w') (hf : Simulates (f a) w' o) : Simulates (x >>= f) w o := by
  cases o with
  | some v =>
    obtain ⟨b, w'', hb, hv, hways'⟩ := hf
    exact ⟨b, w'', hx.bind hb, hv, hways.trans hways'⟩
  | none =>
    intro b w'' hb
    obtain ⟨a', w₁, hx', hf'⟩ := Run.finishes_bind_iff.1 hb
    obtain ⟨rfl, rfl⟩ := hx.unique hx'
    exact hf b w'' hf'

theorem bind_none {x : Run α} {f : α → Run β} (hx : Simulates x w none) : Simulates (x >>= f) w none := by
  intro b w'' hb
  obtain ⟨a, w', hx', -⟩ := Run.finishes_bind_iff.1 hb
  exact hx a w' hx'

theorem map {x : Run α} {o : Option View} (hx : Simulates x w o) (g : α → β) :
    Simulates (x >>= fun a => Pure.pure (g a)) w o := by
  cases o with
  | some v =>
    obtain ⟨a, w', ha, hv, hways⟩ := hx
    exact ⟨g a, w', ha.bind (Run.finishes_pure _ _), hv, hways⟩
  | none => exact bind_none hx

theorem sumOver {step : α → Run Nat} {f : α → View → Option View} {as : List α}
    (hstep : ∀ a ∈ as, ∀ w', w.SameWays w' → Simulates (step a) w' (f a w'.view)) :
    Simulates (BundleCheck.sumOver step as) w (inTurn f as w.view) := by
  induction as generalizing w with
  | nil => exact pure 0 w
  | cons a rest ih =>
    have hfirst := hstep a List.mem_cons_self w (.refl w)
    rw [BundleCheck.sumOver]
    cases hf : f a w.view with
    | none =>
      rw [hf] at hfirst
      have hnone : inTurn f (a :: rest) w.view = none := by
        rw [inTurn, List.foldlM_cons, hf]
        rfl
      rw [hnone]
      exact bind_none hfirst
    | some v =>
      rw [hf] at hfirst
      obtain ⟨n, w', hn, rfl, hways⟩ := hfirst
      have hsome : inTurn f (a :: rest) w.view = inTurn f rest w'.view := by
        rw [inTurn, List.foldlM_cons, hf]
        rfl
      rw [hsome]
      refine bind hn hways (map (ih fun b hb w'' hways' => ?_) fun others => n + others)
      exact hstep b (List.mem_cons_of_mem a hb) w'' (hways.trans hways')

end Simulates

/-! ### Steps of a run -/

theorem simulates_throw {α : Type} (f : Failure) (w : World) : Simulates (throw f : Run α) w none :=
  fun _ _ => Run.not_finishes_throw

theorem finishes_report (t : Task) (b : Bundle) (w : World) :
    ∃ said, Run.Finishes (t.report b) w (b.report.counted t.settings.fatal) { w with said } :=
  ⟨_, (Run.finishes_say t.printer (.report b) w).bind (Run.finishes_pure _ _)⟩

theorem finishes_check (t : Task) (b : Bundle) (reference : Option Bundle) (w : World) :
    ∃ b' : Bundle, Run.Finishes (t.check b reference) w b' w ∧ b'.content = b.content ∧ b'.file = b.file := by
  have hcheck := b.check_eq reference t.suite
  refine ⟨_, ?_, Bundle.check_content hcheck, rfl⟩
  rw [Task.check, hcheck]
  exact Run.finishes_pure _ w

/-! ### Files -/

theorem finishes_load_of_parse {w : World} {path text : String} (s : Settings) (b : Bundle)
    (h : w.tree.read w.directory path = .ok text) :
    let after := { b with file := some path }.parse s text
    Run.Finishes (b.load s path) w (after.1, after.2.map (.ofReadError after.1.sourceName)) w :=
  (Run.finishes_isPresent (Tree.isPresent_of_read h)).bind ((Run.finishes_read h).bind (Run.finishes_pure _ w))

theorem finishes_load_of_read {w : World} {path text : String} {s : Settings}
    (hpattern : Deferral.HasPattern s.deferralMarker) (b : Bundle) (h : w.tree.read w.directory path = .ok text) :
    ∃ b' e, Run.Finishes (b.load s path) w (b', e) w ∧ b'.file = some path ∧
      match Content.ofText? s.deferralMarker text with
      | some d => b'.content = d ∧ e = none
      | none => ∃ error, e = some error ∧ error.isMalformed = true := by
  refine ⟨_, _, finishes_load_of_parse s b h, ?_⟩
  rw [Bundle.parse_of_hasPattern hpattern, Content.ofText?, Bundle.read]
  rcases Reading.ofText s.deferralMarker text with ⟨r, stop⟩
  cases stop with
  | none => exact ⟨rfl, rfl, rfl⟩
  | some stop => exact ⟨rfl, _, rfl, rfl⟩

theorem finishes_load_of_not_read {w : World} {path : String} (s : Settings) (b : Bundle)
    (h : ∀ text, w.tree.read w.directory path ≠ .ok text) :
    ∃ b' error, Run.Finishes (b.load s path) w (b', some error) w ∧ error.isMalformed = false := by
  cases hpresent : w.tree.isPresent w.directory path with
  | false => exact ⟨b, .missing path, (Run.finishes_isPresent hpresent).bind (Run.finishes_pure _ w), rfl⟩
  | true =>
    cases hread : w.tree.read w.directory path with
    | ok text => exact absurd hread (h text)
    | error e =>
      exact ⟨b, .unreadable e, (Run.finishes_isPresent hpresent).bind
        ((Run.finishes_read hread).bind (Run.finishes_pure _ w)), rfl⟩

theorem finishes_save {w : World} {path : String} {l : Location} {b : Bundle} (hb : b.file = some path)
    (h : w.ways path = .file l) : Run.Finishes (b.save none) w (.ok ()) (w.written l b.content.text) := by
  have hwrite : Run.Finishes (Host.write path b.content.text) w (.ok ()) (w.written l b.content.text) :=
    Run.finishes_write_iff.2 (.inr ⟨_, Tree.write_eq_ok_iff.2 ⟨l, h, rfl⟩, rfl, rfl⟩)
  rw [Bundle.save, hb]
  exact hwrite.bind (Run.finishes_pure _ _)

theorem finishes_save_of_ne {w : World} {path : String} {b : Bundle} (hb : b.file = some path)
    (h : ∀ l, w.ways path ≠ .file l) : ∃ e, Run.Finishes (b.save none) w (.error e) w := by
  rw [Bundle.save, hb]
  cases hwrite : w.tree.write w.directory path b.content.text with
  | ok tree =>
    obtain ⟨l, hl, -⟩ := Tree.write_eq_ok_iff.1 hwrite
    exact absurd hl (h l)
  | error e =>
    have hfails : Run.Finishes (Host.write path b.content.text) w (.error e) w :=
      Run.finishes_write_iff.2 (.inl ⟨e, hwrite, rfl, rfl⟩)
    exact ⟨.unwritable e, hfails.bind (Run.finishes_pure _ w)⟩

/-! ### Translations -/

section Translation

variable {t : Task} (hpattern : Deferral.HasPattern t.settings.deferralMarker) (reference : Bundle) (language : String)
  {path : String} {w : World}

include hpattern in
/-- A translation whose text can be read is usable, and one with a bad line is not. -/
theorem finishes_open_of_read {text : String} (h : w.tree.read w.directory path = .ok text) :
    ∃ opened, Run.Finishes (openTranslation t reference language path) w opened w ∧
      match Content.ofText? t.settings.deferralMarker text with
      | some d => opened.isUsable = true ∧ opened.bundle.content = d ∧ opened.bundle.file = some path
      | none => opened.isUsable = false := by
  have hpresent := Run.finishes_isPresent (Tree.isPresent_of_read h)
  obtain ⟨b, e, hload, hfile, hspec⟩ := finishes_load_of_read hpattern (.ofLanguage language) h
  cases hread : Content.ofText? t.settings.deferralMarker text with
  | some d =>
    rw [hread] at hspec
    obtain ⟨hcontent, rfl⟩ := hspec
    exact ⟨⟨b, true⟩, hpresent.bind (hload.bind (Run.finishes_pure _ w)), rfl, hcontent, hfile⟩
  | none =>
    rw [hread] at hspec
    obtain ⟨error, rfl, hmalformed⟩ := hspec
    refine ⟨.refused b malformedLabel error.message, hpresent.bind (hload.bind ?_), rfl⟩
    simp only [hmalformed, if_true]
    exact Run.finishes_pure _ w

theorem simulates_open_of_not_read (h : ∀ text, w.tree.read w.directory path ≠ .ok text)
    (hpresent : w.tree.isPresent w.directory path = true) :
    Simulates (openTranslation t reference language path) w none := by
  obtain ⟨b, error, hload, hmalformed⟩ := finishes_load_of_not_read t.settings (.ofLanguage language) h
  refine .bind (Run.finishes_isPresent hpresent) (.refl w) (.bind hload (.refl w) ?_)
  simp only [hmalformed, Bool.false_eq_true, if_false]
  exact simulates_throw _ w

theorem finishes_open_of_missing (hpresent : w.tree.isPresent w.directory path = false)
    (hcreate : t.settings.create = false) :
    ∃ opened, Run.Finishes (openTranslation t reference language path) w opened w ∧
      opened.isUsable = false := by
  refine ⟨.refused { Bundle.ofLanguage language with file := some path } fileLabel
    (LoadError.missing path).message, (Run.finishes_isPresent hpresent).bind ?_, rfl⟩
  simp only [hcreate, Bool.false_eq_true, if_false]
  exact Run.finishes_pure _ w

include hpattern in
theorem simulates_open_of_no_place (hpresent : w.tree.isPresent w.directory path = false)
    (hcreate : t.settings.create = true) (hplace : ∀ l, w.ways path ≠ .file l) :
    Simulates (openTranslation t reference language path) w none := by
  refine .bind (Run.finishes_isPresent hpresent) (.refl w) ?_
  simp only [hcreate, Bool.false_eq_true, if_false, if_true]
  rw [createTranslation, Bundle.create_of_hasPattern hpattern]
  obtain ⟨e, hsave⟩ := finishes_save_of_ne
    (b := { Bundle.createFrom t.settings reference language with file := some path }) rfl hplace
  exact .bind hsave (.refl w) (simulates_throw _ w)

include hpattern in
theorem finishes_open_of_created {l : Location} (hpresent : w.tree.isPresent w.directory path = false)
    (hcreate : t.settings.create = true) (hl : w.ways path = .file l) :
    let d := Content.empty.update t.settings reference.content
    ∃ opened w', Run.Finishes (openTranslation t reference language path) w opened w' ∧ w.SameWays w' ∧
      w'.view = Function.update w.view l (some (.file (.text d.text))) ∧
      opened.isUsable = true ∧ opened.bundle.content = d ∧ opened.bundle.file = some path := by
  intro d
  have hopen : Run.Finishes (openTranslation t reference language path) w
      ⟨{ Bundle.createFrom t.settings reference language with file := some path }, true⟩
      { w.written l d.text with said := w.said ++ [⟨t.printer, .note ("Created " ++ path)⟩] } := by
    refine (Run.finishes_isPresent hpresent).bind ?_
    simp only [hcreate, Bool.false_eq_true, if_false, if_true]
    rw [createTranslation, Bundle.create_of_hasPattern hpattern]
    exact (finishes_save rfl hl).bind ((Run.finishes_say _ _ _).bind (Run.finishes_pure _ _))
  exact ⟨_, _, hopen, (World.SameWays.written hl _).trans (.say _ _), World.view_written hl _, rfl, rfl, rfl⟩

/-- What is done with a translation that has been opened: if it is usable, it is checked and updated. -/
def checkOpened (t : Task) (reference : Bundle) (path : String) (opened : Opened) : Run Nat := do
  if opened.isUsable then
    let b ← t.check opened.bundle (some reference)
    let b ← if t.settings.update then updateTranslation t reference b path else Pure.pure b
    t.report b
  else t.report opened.bundle

theorem checkTranslation_eq (t : Task) (reference : Bundle) (base language : String) :
    (checkTranslation t reference base language : Run Nat) =
      match t.settings.languageFile base language with
      | .error fault => throw (.invalidBase fault)
      | .ok path => openTranslation t reference language path >>= checkOpened t reference path := rfl

include hpattern in
theorem simulates_usable (hupdate : t.settings.update = true) {l : Location} (hl : w.ways path = .file l)
    {opened : Opened} (husable : opened.isUsable = true) (hfile : opened.bundle.file = some path) :
    Simulates (checkOpened t reference path opened) w
      (some (Function.update w.view l
        (some (.file (.text (opened.bundle.content.update t.settings reference.content).text))))) := by
  rw [checkOpened, if_pos husable]
  obtain ⟨checked, hcheck, hcontent, hchecked⟩ := finishes_check t opened.bundle (some reference) w
  refine .bind hcheck (.refl w) ?_
  simp only [hupdate, if_true]
  have hsave := finishes_save (b := checked.update t.settings reference) (hchecked.trans hfile) hl
  have hupdated : (checked.update t.settings reference).content =
      opened.bundle.content.update t.settings reference.content := by
    rw [← hcontent]
    rfl
  rw [hupdated] at hsave
  have hwrite : Run.Finishes (updateTranslation t reference checked path) w
      (checked.update t.settings reference)
      { w.written l (opened.bundle.content.update t.settings reference.content).text with
        said := w.said ++ [⟨t.printer, .note ("Updated " ++ path)⟩] } := by
    rw [updateTranslation, Bundle.rebuild_of_hasPattern hpattern]
    exact hsave.bind ((Run.finishes_say _ _ _).bind (Run.finishes_pure _ _))
  refine .bind hwrite ((World.SameWays.written hl _).trans (.say _ _)) ?_
  obtain ⟨said, hreport⟩ := finishes_report t (checked.update t.settings reference) _
  exact ⟨_, _, hreport, World.view_written hl _, .say _ _⟩

theorem simulates_unusable {opened : Opened} (husable : opened.isUsable = false) :
    Simulates (checkOpened t reference path opened) w (some w.view) := by
  rw [checkOpened, if_neg (by simp [husable])]
  obtain ⟨said, hreport⟩ := finishes_report t opened.bundle w
  exact ⟨_, _, hreport, rfl, .say w said⟩

include hpattern in
theorem simulates_translation_of_text (hupdate : t.settings.update = true) {l : Location} {text : String}
    (hl : w.ways path = .file l) (hnode : w.view l = some (.file (.text text))) :
    Simulates (openTranslation t reference language path >>= checkOpened t reference path) w
      (some (Function.update w.view l
        (some (.file (.text (renewedText t.settings reference.content text)))))) := by
  obtain ⟨opened, hopen, hspec⟩ :=
    finishes_open_of_read hpattern reference language (Tree.read_eq_ok_iff.2 ⟨l, hl, hnode⟩)
  refine .bind hopen (.refl w) ?_
  rw [renewedText]
  cases hcontent : Content.ofText? t.settings.deferralMarker text with
  | some d =>
    rw [hcontent] at hspec
    obtain ⟨husable, rfl, hfile⟩ := hspec
    exact simulates_usable hpattern reference hupdate hl husable hfile
  | none =>
    rw [hcontent] at hspec
    have hself : Function.update w.view l (some (.file (.text text))) = w.view := by
      rw [← hnode]
      exact Function.update_eq_self l w.view
    rw [hself]
    exact simulates_unusable reference hspec

theorem simulates_translation_of_missing (hpresent : w.tree.isPresent w.directory path = false)
    (hcreate : t.settings.create = false) :
    Simulates (openTranslation t reference language path >>= checkOpened t reference path) w (some w.view) := by
  obtain ⟨opened, hopen, husable⟩ := finishes_open_of_missing reference language hpresent hcreate
  exact .bind hopen (.refl w) (simulates_unusable reference husable)

include hpattern in
theorem simulates_translation_of_created (hupdate : t.settings.update = true) {l : Location}
    (hl : w.ways path = .file l) (hpresent : w.tree.isPresent w.directory path = false)
    (hcreate : t.settings.create = true) :
    Simulates (openTranslation t reference language path >>= checkOpened t reference path) w
      (some (Function.update w.view l
        (some (.file (.text (createdText t.settings reference.content)))))) := by
  obtain ⟨opened, w', hopen, hways, hview, husable, hcontent, hfile⟩ :=
    finishes_open_of_created hpattern reference language hpresent hcreate hl
  have hstep := simulates_usable hpattern reference hupdate ((congrFun hways.ways path).trans hl) husable hfile
  -- The file is written twice, and only the second text stays.
  rw [hview, Function.update_idem, hcontent] at hstep
  exact .bind hopen hways hstep

include hpattern in
/-- With updating on, opening and checking a translation has the effect on it. -/
theorem simulates_translation (hupdate : t.settings.update = true) (path : String) (w : World) :
    Simulates (openTranslation t reference language path >>= checkOpened t reference path) w
      (translationEffect t.settings w.ways reference.content path w.view) := by
  have hpresent := Tree.isPresent_eq w.tree w.directory path
  rw [translationEffect]
  cases hways : w.ways path with
  | directory =>
    rw [show w.tree.spot w.directory path = .directory from hways] at hpresent
    refine .bind_none (simulates_open_of_not_read reference language (fun text htext => ?_) hpresent)
    obtain ⟨l, hl, -⟩ := Tree.read_eq_ok_iff.1 htext
    cases hways.symm.trans hl
  | nowhere =>
    rw [show w.tree.spot w.directory path = .nowhere from hways] at hpresent
    cases hcreate : t.settings.create with
    | true =>
      refine .bind_none (simulates_open_of_no_place hpattern reference language hpresent hcreate fun l hl => ?_)
      cases hways.symm.trans hl
    | false => exact simulates_translation_of_missing reference language hpresent hcreate
  | file l =>
    rw [show w.tree.spot w.directory path = .file l from hways] at hpresent
    simp only
    rcases hnode : w.view l with - | ⟨(text | bytes) | -⟩
    · simp only [show w.tree.node? l = none from hnode, Option.isSome_none] at hpresent
      cases hcreate : t.settings.create with
      | true =>
        simp only [renewedNode, hcreate, if_true, Option.map_some]
        exact simulates_translation_of_created hpattern reference language hupdate hways hpresent hcreate
      | false =>
        have hself : Function.update w.view l none = w.view := by
          rw [← hnode]
          exact Function.update_eq_self l w.view
        simp only [renewedNode, hcreate, Bool.false_eq_true, if_false, Option.map_some, hself]
        exact simulates_translation_of_missing reference language hpresent hcreate
    · exact simulates_translation_of_text hpattern reference language hupdate hways hnode
    · simp only [show w.tree.node? l = _ from hnode, Option.isSome_some] at hpresent
      refine .bind_none (simulates_open_of_not_read reference language (fun text htext => ?_) hpresent)
      obtain ⟨k, hk, hread⟩ := Tree.read_eq_ok_iff.1 htext
      obtain rfl := Tree.Spot.file.inj (hways.symm.trans hk)
      cases hnode.symm.trans hread
    · exact absurd hnode (Tree.node?_of_spot_eq_file hways)

include hpattern in
theorem simulates_checkTranslation (hupdate : t.settings.update = true) (base : String) (w : World) :
    Simulates (checkTranslation t reference base language) w
      (languageEffect t.settings w.ways base reference.content language w.view) := by
  rw [checkTranslation_eq, languageEffect]
  cases t.settings.languageFile base language with
  | error fault => exact simulates_throw _ w
  | ok path => exact simulates_translation hpattern reference language hupdate path w

end Translation

/-! ### Base files and projects -/

theorem contentAt?_of_read {w : World} {path text : String} (s : Settings)
    (h : w.tree.read w.directory path = .ok text) :
    contentAt? s w.ways w.view path = Content.ofText? s.deferralMarker text := by
  obtain ⟨l, hl, hnode⟩ := Tree.read_eq_ok_iff.1 h
  rw [contentAt?, show w.ways path = .file l from hl]
  simp only [show w.view l = some (.file (.text text)) from hnode]

theorem contentAt?_of_not_read {w : World} {path : String} (s : Settings)
    (h : ∀ text, w.tree.read w.directory path ≠ .ok text) : contentAt? s w.ways w.view path = none := by
  rw [contentAt?]
  split
  · rename_i l hl
    split
    · rename_i text hnode
      exact absurd (Tree.read_eq_ok_iff.2 ⟨l, hl, hnode⟩) (h text)
    · rfl
  · rfl

theorem simulates_checkBase {t : Task} (hpattern : Deferral.HasPattern t.settings.deferralMarker)
    (hupdate : t.settings.update = true) (base : String) (w : World) :
    Simulates (checkBase t base) w (baseEffect t.settings w.ways base w.view) := by
  rw [checkBase, baseEffect]
  by_cases hread : ∃ text, w.tree.read w.directory base = .ok text
  · obtain ⟨text, htext⟩ := hread
    obtain ⟨b, e, hload, -, hspec⟩ := finishes_load_of_read hpattern .empty htext
    rw [contentAt?_of_read t.settings htext]
    refine .bind hload (.refl w) ?_
    cases hcontent : Content.ofText? t.settings.deferralMarker text with
    | none =>
      rw [hcontent] at hspec
      obtain ⟨error, rfl, -⟩ := hspec
      exact simulates_throw _ w
    | some d =>
      rw [hcontent] at hspec
      obtain ⟨rfl, rfl⟩ := hspec
      obtain ⟨reference, hcheck, hreference, -⟩ := finishes_check t b none w
      refine .bind hcheck (.refl w) ?_
      obtain ⟨said, hreport⟩ := finishes_report t reference w
      refine .bind hreport (.say w said) ?_
      refine .map (.sumOver fun language _ w' hways => ?_) _
      have hstep := simulates_checkTranslation (t := t.indented) hpattern reference language hupdate base w'
      rw [hways.ways, hreference] at hstep
      exact hstep
  · rw [not_exists] at hread
    obtain ⟨b, error, hload, -⟩ := finishes_load_of_not_read t.settings .empty hread
    rw [contentAt?_of_not_read t.settings hread]
    exact .bind hload (.refl w) (simulates_throw _ w)

/-- Without a pattern no base file is checked to the end. -/
theorem not_finishes_checkBase {t : Task} (hpattern : ¬ Deferral.HasPattern t.settings.deferralMarker) {base : String}
    {w w' : World} {errors : Nat} : ¬ Run.Finishes (checkBase t base) w errors w' := by
  obtain ⟨fault, hfault⟩ := (Deferral.hasPattern_or_error t.settings.deferralMarker).resolve_left hpattern
  intro h
  obtain ⟨⟨b, e⟩, w₁, hload, hrest⟩ := Run.finishes_bind_iff.1 h
  have herror : ∃ error, e = some error := by
    by_cases hread : ∃ text, w.tree.read w.directory base = .ok text
    · obtain ⟨text, htext⟩ := hread
      have hparse := finishes_load_of_parse t.settings .empty htext
      rw [Bundle.parse_of_error hfault] at hparse
      obtain ⟨heq, -⟩ := hload.unique hparse
      exact ⟨_, congrArg Prod.snd heq⟩
    · obtain ⟨b', error, hload', -⟩ := finishes_load_of_not_read t.settings .empty (not_exists.1 hread)
      obtain ⟨heq, -⟩ := hload.unique hload'
      exact ⟨_, congrArg Prod.snd heq⟩
  obtain ⟨error, rfl⟩ := herror
  exact absurd hrest Run.not_finishes_throw

theorem finishes_note (t : Task) (text : String) (w : World) :
    ∃ said, Run.Finishes (t.note text) w () { w with said } :=
  ⟨_, Run.finishes_say t.printer (.note text) w⟩

theorem Settings.IsValid.exists_suite {s : Settings} (h : s.IsValid) : ∃ suite, s.suite = .ok suite := by
  cases hsuite : s.suite with
  | ok suite => exact ⟨suite, rfl⟩
  | error fault =>
    unfold IsValid fault? at h
    rw [hsuite] at h
    split at h <;> try cases h
    split at h <;> try cases h
    split at h <;> try cases h
    split at h <;> cases h

/-- With updating on, checking a project has the effect on its files. -/
theorem simulates_checkProject {s : Settings} (hupdate : s.update = true) (hs : s.IsValid)
    (hpattern : Deferral.HasPattern s.deferralMarker) (hfiles : s.files ≠ []) (color : Bool) (source : Option String) (w : World) :
    Simulates (checkProject color s source) w (projectEffect s w.ways w.view) := by
  obtain ⟨suite, hsuite⟩ := hs.exists_suite
  rw [checkProject, show s.fault? = none from hs, hsuite, List.isEmpty_eq_false_iff.2 hfiles]
  simp only [Bool.false_eq_true, if_false]
  generalize { quiet := s.quiet, verbose := s.verbose, fatal := s.fatal, color := color && s.color : Printer } =
    printer
  obtain ⟨said, hsource⟩ := finishes_note ⟨s, suite, printer⟩ (sourceNote source) w
  refine .bind hsource (.say w said) ?_
  obtain ⟨said', hchecks⟩ := finishes_note ⟨s, suite, printer⟩ (suiteNote suite) { w with said }
  refine .bind hchecks (.say _ said') (.map (.sumOver fun base _ w' hways => ?_) _)
  have hstep := simulates_checkBase (t := ⟨s, suite, printer⟩) hpattern hupdate base w'
  rw [hways.ways] at hstep
  exact hstep

/-- A check that comes to its end has had valid settings, a file to check and a pattern for deferred entries. -/
theorem usable_of_checkProject {s : Settings} {color : Bool} {source : Option String} {w w' : World}
    {status : ExitStatus} (h : Run.Finishes (checkProject color s source) w status w') :
    s.IsValid ∧ s.files ≠ [] ∧ Deferral.HasPattern s.deferralMarker := by
  have hvalid : s.IsValid := by
    rw [checkProject] at h
    cases hfault : s.fault? with
    | none => exact hfault
    | some fault =>
      rw [hfault] at h
      obtain ⟨_, _, hthrow, -⟩ := Run.finishes_bind_iff.1 h
      exact absurd hthrow Run.not_finishes_throw
  obtain ⟨suite, hsuite⟩ := hvalid.exists_suite
  rw [checkProject, show s.fault? = none from hvalid, hsuite] at h
  cases hfiles : s.files with
  | nil =>
    rw [hfiles] at h
    obtain ⟨_, _, hthrow, -⟩ := Run.finishes_bind_iff.1 h
    exact absurd hthrow Run.not_finishes_throw
  | cons base rest =>
    refine ⟨hvalid, List.cons_ne_nil _ _, ?_⟩
    rw [hfiles] at h
    simp only [List.isEmpty_cons, Bool.false_eq_true, if_false] at h
    by_contra hpattern
    obtain ⟨_, _, -, h⟩ := Run.finishes_bind_iff.1 h
    obtain ⟨_, _, -, h⟩ := Run.finishes_bind_iff.1 h
    obtain ⟨_, _, hsum, -⟩ := Run.finishes_bind_iff.1 h
    obtain ⟨_, _, hbase, -⟩ := Run.finishes_bind_iff.1 hsum
    exact not_finishes_checkBase hpattern hbase

end BundleCheck
