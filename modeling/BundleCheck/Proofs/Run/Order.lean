import BundleCheck.Proofs.Run.Verdict
import Mathlib.Algebra.BigOperators.Group.List.Basic

/-!
# The order of files and languages

A check that writes nothing finds the same tree at every turn, so what it says at a turn depends on base file and
language alone. It comes to its end exactly if each turn does, wherever the turn stands among the others. So a check
under the same files and languages in another order ends as this one does and prints the same blocks.
-/

namespace BundleCheck

/-! ### Turns that write nothing -/

/-- The settings with other files and languages. -/
def Settings.among (s : Settings) (files languages : List String) : Settings := { s with files, languages }

def Task.among (t : Task) (files languages : List String) : Task :=
  { t with settings := t.settings.among files languages }

/-- What a turn comes to: under a condition it says these things and returns a number, and otherwise it fails. -/
structure ComesTo (turn : List Deed → Except Failure Nat → Prop) (ends : Prop) (said : List Utterance) (n : Nat) :
    Prop where
  of_ends : ends → turn (said.map .said) (.ok n)
  of_not : ¬ ends → ∃ deeds f, turn deeds (.error f)

theorem treeAfter_said (directory : Location) (tree : Tree) (said : List Utterance) :
    treeAfter directory tree (said.map .said) = tree := by
  induction said with
  | nil => rfl
  | cons u rest ih => exact ih

section Turns

variable {t : Task} {directory : Location} {reference b : Bundle} {base language path : String} {tree : Tree}
  {deeds : List Deed} {result : Except Failure Nat}

/-- Steps that leave the tree as it is come to the end if each of them does, and add up. -/
theorem ComesTo.successive {α : Type} {step : α → Tree → List Deed → Except Failure Nat → Prop} {ends : α → Prop}
    {said : α → List Utterance} {n : α → Nat} (h : ∀ a, ComesTo (step a tree) (ends a) (said a) (n a)) (as : List α) :
    ComesTo (Successive directory step as tree) (∀ a ∈ as, ends a) (as.flatMap said) (as.map n).sum := by
  induction as with
  | nil => exact ⟨fun _ => .nil, fun hnot => absurd (List.forall_mem_nil _) hnot⟩
  | cons a rest ih =>
    constructor
    · intro hall
      have hfirst := (h a).of_ends (hall a List.mem_cons_self)
      have hrest := ih.of_ends fun b hb => hall b (List.mem_cons_of_mem a hb)
      rw [← treeAfter_said directory tree (said a)] at hrest
      rw [List.flatMap_cons, List.map_append, List.map_cons, List.sum_cons]
      exact .next hfirst hrest
    · intro hnot
      by_cases hends : ends a
      · obtain ⟨deeds, f, hrest⟩ := ih.of_not fun hall => hnot (List.forall_mem_cons.2 ⟨hends, hall⟩)
        rw [← treeAfter_said directory tree (said a)] at hrest
        exact ⟨_, f, .next ((h a).of_ends hends) hrest⟩
      · obtain ⟨deeds, f, hfirst⟩ := (h a).of_not hends
        exact ⟨deeds, f, .stop hfirst⟩

theorem UsableCourse.among (files languages : List String)
    (h : UsableCourse t directory reference path tree b deeds result) :
    UsableCourse (t.among files languages) directory reference path tree b deeds result := by
  cases h with
  | checked hcheck hupdate => exact .checked hcheck hupdate
  | updated hcheck hupdate hwrite => exact .updated hcheck hupdate hwrite
  | unwritten hcheck hupdate hwrite => exact .unwritten hcheck hupdate hwrite

/-- The turn of a translation does not depend on what other turns there are. -/
theorem TranslationCourse.among (files languages : List String)
    (h : TranslationCourse t directory reference base language tree deeds result) :
    TranslationCourse (t.among files languages) directory reference base language tree deeds result := by
  cases h with
  | nameless hpath => exact .nameless hpath
  | missing hpath habsent hcreate hb => exact .missing hpath habsent hcreate hb
  | uncreated hpath habsent hcreate hwrite => exact .uncreated hpath habsent hcreate hwrite
  | created hpath habsent hcreate hwrite hrest =>
    exact .created hpath habsent hcreate hwrite (hrest.among files languages)
  | unreadable hpath hpresent hread => exact .unreadable hpath hpresent hread
  | malformed hpath hread hstop hb => exact .malformed hpath hread hstop hb
  | legible hpath hread hall hrest => exact .legible hpath hread hall (hrest.among files languages)

/-- With nothing to write, a turn reports one document, or fails. -/
theorem TranslationCourse.reported_or_error
    (h : TranslationCourse t directory reference base language tree deeds result)
    (hupdate : t.settings.update = false) (hcreate : t.settings.create = false) :
    (∃ b, deeds = [t.reported b] ∧ result = .ok (t.counted b)) ∨ ∃ f, result = .error f := by
  cases h with
  | nameless hpath => exact .inr ⟨_, rfl⟩
  | missing hpath habsent hoff hb => exact .inl ⟨_, rfl, rfl⟩
  | uncreated hpath habsent hon hwrite => cases hcreate.symm.trans hon
  | created hpath habsent hon hwrite hrest => cases hcreate.symm.trans hon
  | unreadable hpath hpresent hread => exact .inr ⟨_, rfl⟩
  | malformed hpath hread hstop hb => exact .inl ⟨_, rfl, rfl⟩
  | legible hpath hread hall hrest =>
    cases hrest with
    | checked hcheck hoff => exact .inl ⟨_, rfl, rfl⟩
    | updated hcheck hon hwrite => cases hupdate.symm.trans hon
    | unwritten hcheck hon hwrite => cases hupdate.symm.trans hon

theorem exists_comesTo_translation (hupdate : t.settings.update = false) (hcreate : t.settings.create = false)
    (directory : Location) (reference : Bundle) (base language : String) (tree : Tree) :
    ∃ (ends : Prop) (b : Bundle), ∀ files languages,
      ComesTo (TranslationCourse (t.among files languages) directory reference base language tree) ends
        [⟨t.printer, .report b⟩] (t.counted b) := by
  obtain ⟨deeds, result, hturn⟩ := exists_translationCourse t directory reference base language tree
  obtain ⟨b, rfl, rfl⟩ | ⟨f, rfl⟩ := hturn.reported_or_error hupdate hcreate
  · exact ⟨True, b, fun files languages => ⟨fun _ => hturn.among files languages, fun hnot => absurd trivial hnot⟩⟩
  · exact ⟨False, .empty, fun files languages => ⟨False.elim, fun _ => ⟨deeds, f, hturn.among files languages⟩⟩⟩

end Turns

/-! ### Base files -/

/-- What the turn of a base file comes to, whatever the languages are: the documents that it reports, and which of
its parts come to their end. -/
structure BaseResult where
  loads : Prop
  reference : Bundle
  ends : String → Prop
  translation : String → Bundle

namespace BaseResult

def Ends (a : BaseResult) (languages : List String) : Prop := a.loads ∧ ∀ language ∈ languages, a.ends language

def said (a : BaseResult) (p : Printer) (languages : List String) : List Utterance :=
  ⟨p, .report a.reference⟩ :: languages.map fun language => ⟨p.indented, .report (a.translation language)⟩

def counted (a : BaseResult) (fatal : Bool) (languages : List String) : Nat :=
  a.reference.report.counted fatal + (languages.map fun language => (a.translation language).report.counted fatal).sum

theorem counted_perm (a : BaseResult) (fatal : Bool) {languages languages' : List String}
    (h : languages.Perm languages') : a.counted fatal languages = a.counted fatal languages' := by
  rw [counted, counted, (h.map _).sum_eq]

theorem ends_perm (a : BaseResult) {languages languages' : List String} (h : languages.Perm languages') :
    a.Ends languages ↔ a.Ends languages' :=
  and_congr_right fun _ => forall_congr' fun _ => imp_congr_left h.mem_iff

end BaseResult

theorem exists_comesTo_base {t : Task} (hupdate : t.settings.update = false) (hcreate : t.settings.create = false)
    (directory : Location) (tree : Tree) (base : String) :
    ∃ a : BaseResult, ∀ files languages, ComesTo (BaseCourse (t.among files languages) directory base tree)
      (a.Ends languages) (a.said t.printer languages) (a.counted t.settings.fatal languages) := by
  have hfails : ∀ {deeds f}, (∀ files languages, BaseCourse (t.among files languages) directory base tree deeds
      (.error f)) → ∃ a : BaseResult, ∀ files languages, ComesTo (BaseCourse (t.among files languages) directory base
        tree) (a.Ends languages) (a.said t.printer languages) (a.counted t.settings.fatal languages) := by
    intro deeds f h
    exact ⟨⟨False, .empty, fun _ => False, fun _ => .empty⟩, fun files languages =>
      ⟨fun hends => hends.1.elim, fun _ => ⟨deeds, f, h files languages⟩⟩⟩
  cases hpresent : tree.isPresent directory base with
  | false => exact hfails fun files languages => .missing hpresent
  | true =>
    cases hread : tree.read directory base with
    | error e => exact hfails fun files languages => .unreadable hpresent hread
    | ok text =>
      obtain hpattern | ⟨fault, hfault⟩ := Deferral.hasPattern_or_error t.settings.deferralMarker
      case inr => exact hfails fun files languages => .patternless (t := t.among files languages) hread hfault
      rcases hreading : { Bundle.empty with file := some base }.read t.settings text with ⟨b, stop⟩
      cases stop with
      | some stop => exact hfails fun files languages => .malformed hread hpattern hreading
      | none =>
        obtain ⟨reference, hcheck⟩ := b.exists_check none t.suite
        choose ends translation hturns using fun language =>
          exists_comesTo_translation (t := t.indented) hupdate hcreate directory reference base language tree
        refine ⟨⟨True, reference, ends, translation⟩, fun files languages => ?_⟩
        have hall : ComesTo (Successive directory _ languages tree) _ _ _ :=
          .successive (fun language => hturns language files languages) languages
        rw [← List.map_eq_flatMap] at hall
        constructor
        · intro hends
          exact .legible (t := t.among files languages) hread hpattern hreading hcheck (hall.of_ends hends.2)
        · intro hnot
          obtain ⟨deeds, f, hrest⟩ := hall.of_not fun hends => hnot ⟨trivial, hends⟩
          exact ⟨_, f, .legible (t := t.among files languages) hread hpattern hreading hcheck hrest⟩

/-! ### The command -/

/-- The reports of a run, as they are printed. -/
def World.reports (w : World) : List Utterance := w.said.filter fun u => u.document?.isSome

theorem BaseResult.filter_said (a : BaseResult) (p : Printer) (languages : List String) :
    (a.said p languages).filter (fun u => u.document?.isSome) = a.said p languages := by
  rw [List.filter_eq_self, said]
  intro u hu
  obtain rfl | hu := List.mem_cons.1 hu
  · rfl
  · obtain ⟨language, -, rfl⟩ := List.mem_map.1 hu
    rfl

theorem utterances_said (said : List Utterance) : utterances (said.map .said) = said := by
  rw [utterances, List.filterMap_map]
  exact List.filterMap_some

section Project

variable {color : Bool} {s : Settings} {source : Option String} {directory : Location} {tree : Tree}
  {files : List String} {ends : Prop} {said : List Utterance} {n : Nat} {suite : Suite}

theorem ProjectCourse.of_comesTo (hvalid : s.IsValid) (hfiles : s.files ≠ []) (hsuite : s.suite = .ok suite)
    (h : ComesTo (Successive directory (BaseCourse ⟨s, suite, s.printer color⟩ directory) s.files tree) ends said n)
    (hends : ends) :
    ProjectCourse color s source directory tree
      ((⟨s.printer color, .note (sourceNote source)⟩ :: ⟨s.printer color, .note (suiteNote suite)⟩ :: said).map .said)
      (.ok (.ofErrors n)) :=
  .checked hvalid hfiles hsuite (h.of_ends hends)

theorem ProjectCourse.exists_error (source : Option String) (hvalid : s.IsValid) (hsuite : s.suite = .ok suite)
    (h : ComesTo (Successive directory (BaseCourse ⟨s, suite, s.printer color⟩ directory) s.files tree) ends said n)
    (hends : ¬ (s.files ≠ [] ∧ ends)) : ∃ deeds f, ProjectCourse color s source directory tree deeds (.error f) := by
  by_cases hfiles : s.files = []
  · exact ⟨_, _, .idle hvalid hfiles⟩
  · obtain ⟨deeds, f, hrest⟩ := h.of_not fun hall => hends ⟨hfiles, hall⟩
    exact ⟨_, f, .checked hvalid hfiles hsuite hrest⟩

end Project

namespace Command

/-- For each base file there is a result that does not depend on the files and languages beside it, and a check
under any files and languages comes to its end, counts and reports as these results say. -/
theorem exists_comesTo_check {s : Settings} (hupdate : s.update = false) (hcreate : s.create = false) (color : Bool)
    (directory : Location) (tree : Tree) :
    ∃ a : String → BaseResult, ∀ (r : CheckRequest) (files languages : List String),
      r.settingsOn? tree directory = some (s.among files languages) →
      let outcome := (check r).run color tree directory
      (outcome.failure = none ↔ s.IsValid ∧ files ≠ [] ∧ ∀ base ∈ files, (a base).Ends languages) ∧
      (outcome.failure = none →
        outcome.status = .ofErrors (files.map fun base => (a base).counted s.fatal languages).sum ∧
        outcome.world.reports = files.flatMap fun base => (a base).said (s.printer color) languages) := by
  by_cases hvalid : s.IsValid
  · obtain ⟨suite, hsuite⟩ := hvalid.exists_suite
    choose a hbases using
      exists_comesTo_base (t := ⟨s, suite, s.printer color⟩) hupdate hcreate directory tree
    refine ⟨a, fun r files languages hs => ?_⟩
    have hall : ComesTo (Successive directory _ files tree) _ _ _ :=
      .successive (fun base => hbases base files languages) files
    obtain ⟨loaded, hload, happly⟩ := CheckRequest.exists_loadedOn hs
    by_cases hends : files ≠ [] ∧ ∀ base ∈ files, (a base).Ends languages
    · have hproject : ProjectCourse color (s.among files languages) loaded.source directory tree _ _ :=
        .of_comesTo hvalid hends.1 hsuite hall hends.2
      rw [← happly] at hproject
      have hrun := run_of_course (.settled hload hproject)
      rw [utterances_said] at hrun
      intro outcome
      rw [show outcome = _ from hrun]
      refine ⟨iff_of_true rfl ⟨hvalid, hends⟩, fun _ => ⟨rfl, ?_⟩⟩
      have hreports : ((files.flatMap fun base => (a base).said (s.printer color) languages).filter
          fun u => u.document?.isSome) = files.flatMap fun base => (a base).said (s.printer color) languages := by
        rw [List.filter_flatMap]
        exact List.flatMap_congr fun base _ => (a base).filter_said _ _
      exact hreports
    · obtain ⟨deeds, f, hproject⟩ := ProjectCourse.exists_error (s := s.among files languages) loaded.source hvalid
        hsuite hall hends
      rw [← happly] at hproject
      intro outcome
      rw [show outcome = _ from run_of_course (.settled hload hproject)]
      exact ⟨iff_of_false (Option.some_ne_none f) fun h => hends h.2, fun hnone => absurd hnone (Option.some_ne_none f)⟩
  · refine ⟨fun _ => ⟨False, .empty, fun _ => False, fun _ => .empty⟩, fun r files languages hs => ?_⟩
    have hfails : ((check r).run color tree directory).failure ≠ none := fun hends =>
      hvalid (show (s.among files languages).IsValid from isValid_of_ends hs hends)
    exact ⟨iff_of_false hfails fun h => hvalid h.1, fun hends => absurd hends hfails⟩

theorem roster_of_ends {r : CheckRequest} {color : Bool} {directory : Location} {tree : Tree} {s : Settings}
    (hs : r.settingsOn? tree directory = some s) (h : ((check r).run color tree directory).failure = none) :
    ((check r).run color tree directory).world.documents.map (fun b => (b.file, b.language)) = s.roster := by
  obtain ⟨deeds, status, hcourse⟩ := exists_course_of_ends h
  obtain ⟨n, -, htally⟩ := hcourse.tally hs
  rw [documents_of_course hcourse, htally.roster_eq]

/-- With updating and creating off, a check under the same files and languages in another order comes to its end
exactly if this one does. Then it has the same status, and for each base file and each language it prints the same
block. -/
theorem check_in_any_order {r r' : CheckRequest} (color : Bool) {directory : Location} {tree : Tree} {s : Settings}
    {files languages : List String} (hs : r.settingsOn? tree directory = some s)
    (hs' : r'.settingsOn? tree directory = some { s with files, languages }) (hfiles : files.Perm s.files)
    (hlanguages : languages.Perm s.languages) (hupdate : s.update = false) (hcreate : s.create = false) :
    let one := (check r).run color tree directory
    let other := (check r').run color tree directory
    (other.failure = none ↔ one.failure = none) ∧
    (one.failure = none →
      other.status = one.status ∧
      one.world.documents.map (fun b => (b.file, b.language)) = s.roster ∧
      other.world.documents.map (fun b => (b.file, b.language)) = Settings.roster { s with files, languages } ∧
      ∃ (ofBase : String → Utterance) (ofTranslation : String → String → Utterance),
        one.world.reports = s.files.flatMap (fun base => ofBase base :: s.languages.map (ofTranslation base)) ∧
        other.world.reports = files.flatMap (fun base => ofBase base :: languages.map (ofTranslation base))) := by
  intro one other
  obtain ⟨a, ha⟩ := exists_comesTo_check hupdate hcreate color directory tree
  obtain ⟨hone, hreports⟩ := ha r s.files s.languages hs
  obtain ⟨hother, hreports'⟩ := ha r' files languages hs'
  have hsame : other.failure = none ↔ one.failure = none := by
    rw [hone, hother]
    refine and_congr_right fun _ => and_congr (not_congr ?_) (forall_congr' fun base => imp_congr hfiles.mem_iff ?_)
    · exact ⟨fun h => (h ▸ hfiles).nil_eq.symm, fun h => (h ▸ hfiles).eq_nil⟩
    · exact (a base).ends_perm hlanguages
  refine ⟨hsame, fun hends => ?_⟩
  obtain ⟨hstatus, hblocks⟩ := hreports hends
  obtain ⟨hstatus', hblocks'⟩ := hreports' (hsame.2 hends)
  refine ⟨?_, roster_of_ends hs hends, roster_of_ends hs' (hsame.2 hends), ?_⟩
  · have hcounted : ∀ base, (a base).counted s.fatal languages = (a base).counted s.fatal s.languages :=
      fun base => (a base).counted_perm s.fatal hlanguages
    rw [hstatus, hstatus', (hfiles.map _).sum_eq]
    simp only [hcounted]
  · exact ⟨_, fun base language => ⟨(s.printer color).indented, .report ((a base).translation language)⟩, hblocks,
      hblocks'⟩

/-- Two base files and two languages, each in the other order. One translation is missing and one is malformed. -/
theorem check_in_any_order_reversed :
    let r : CheckRequest :=
      { bases := ["a.properties", "b.properties"], languages := ["de", "fr"], checks := [.danglingKeys] }
    let r' : CheckRequest := { r with bases := ["b.properties", "a.properties"], languages := ["fr", "de"] }
    let tree : Tree :=
      ⟨[(["a.properties"], .file (.text "k = v")), (["a_de.properties"], .file (.text "l = w")),
        (["b.properties"], .file (.text "k = v")), (["b_de.properties"], .file (.text "l")),
        (["b_fr.properties"], .file (.text "k = w"))]⟩
    let one := (check r).run false tree []
    let other := (check r').run false tree []
    one.status = .failure 3 ∧ other.status = .failure 3 ∧
      other.world.documents.map (fun b => (b.file.getD "", b.report.errors)) =
        [("b.properties", 0), ("b_fr.properties", 0), ("b_de.properties", 1), ("a.properties", 0),
          ("a_fr.properties", 1), ("a_de.properties", 1)] := by
  intro r r' tree one other
  have hs : r.settingsOn? tree [] = some (r.apply .standard) := by decide +kernel
  have hs' : r'.settingsOn? tree [] =
      some { r.apply .standard with files := r'.bases, languages := r'.languages } := by decide +kernel
  have hfiles : r'.bases.Perm (r.apply .standard).files := by decide
  have hlanguages : r'.languages.Perm (r.apply .standard).languages := by decide
  have hends : one.failure = none := by decide +kernel
  have hstatus : one.status = .failure 3 := by decide +kernel
  have hother : other.world.documents.map (fun b => (b.file.getD "", b.report.errors)) =
      [("b.properties", 0), ("b_fr.properties", 0), ("b_de.properties", 1), ("a.properties", 0),
        ("a_fr.properties", 1), ("a_de.properties", 1)] := by decide +kernel
  have hupdate : (r.apply .standard).update = false := rfl
  have hcreate : (r.apply .standard).create = false := rfl
  clear_value r r' tree
  obtain ⟨hsame, -⟩ := (check_in_any_order false hs hs' hfiles hlanguages hupdate hcreate).2 hends
  exact ⟨hstatus, hsame.trans hstatus, hother⟩

end Command

end BundleCheck
