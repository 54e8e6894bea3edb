import BundleCheck.Proofs.Bundle.DeferralPattern
import BundleCheck.Proofs.Bundle.Update

/-!
# Reading what was written

A document that came from a text without a fault, or from creating or updating a translation, can be
written and read again without a fault, under any settings whose deferral marker has a pattern. The lines
come back one by one as `Line.reread`, and a blank line at the end is lost. So the exact condition for
getting the same lines back is that each of them is durable and that the last is not blank.
-/

namespace BundleCheck

/-! ### Written lines -/

/-- The lines that come back when some lines are written and read again. -/
def rereadLines (lines : List Line) : List Line :=
  (if lines.getLast? = some .blank then lines.dropLast else lines).map Line.reread

theorem Line.text_eq_empty_iff {l : Line} : l.text.toList = [] ↔ l = .blank := by
  cases l with
  | entry e => simp [text, e.toList_text]
  | comment c =>
    have hne : c.text.toList ≠ [] := by
      intro h
      have hmarked := c.marked
      rw [h] at hmarked
      cases hmarked
    simp [text, hne]
  | blank => simp [text]

theorem Content.toList_text (d : Content) :
    d.text.toList = ['\n'].intercalate (d.lines.map fun l => l.text.toList) := by
  rw [Content.text, String.toList_intercalate, List.map_map]
  rfl

theorem Content.lines_text {d : Content} (h : ∀ l ∈ d.lines, l.Legible) :
    Text.lines d.text.toList =
      (if d.lines.getLast? = some .blank then d.lines.dropLast else d.lines).map
        fun l => Text.dropReturn l.text.toList := by
  have hline : ∀ l ∈ d.lines.map fun l => l.text.toList, '\n' ∉ l := by
    intro text htext
    obtain ⟨l, hl, rfl⟩ := List.mem_map.1 htext
    exact (h l hl).not_mem_text
  have hlast : (d.lines.map fun l => l.text.toList).getLast? = some [] ↔ d.lines.getLast? = some .blank := by
    rw [List.getLast?_map, Option.map_eq_some_iff]
    constructor
    · rintro ⟨l, hl, hempty⟩
      rw [hl, Line.text_eq_empty_iff.1 hempty]
    · exact fun hl => ⟨.blank, hl, rfl⟩
  rw [Text.lines, d.toList_text, Text.pieces_intercalate hline]
  by_cases hblank : d.lines.getLast? = some .blank
  · rw [if_pos (hlast.2 hblank), if_pos hblank, ← List.map_dropLast, List.map_map]
    rfl
  · rw [if_neg (fun hempty => hblank (hlast.1 hempty)), if_neg hblank, List.map_map]
    rfl

theorem readsAs_text {d : Content} (h : ∀ l ∈ d.lines, l.Legible) (marker : String) :
    ReadsAs marker (Text.lines d.text.toList) (rereadLines d.lines) := by
  rw [d.lines_text h, rereadLines, ReadsAs, List.forall₂_map_left_iff, List.forall₂_map_right_iff,
    List.forall₂_same]
  intro l hl
  refine ReadLine.ofText_text (h l ?_) marker
  split at hl
  · exact (List.dropLast_sublist _).subset hl
  · exact hl

/-! ### Lines that come back -/

theorem keysOf_map_reread_sublist (lines : List Line) :
    (keysOf (lines.map Line.reread)).Sublist (keysOf lines) := by
  induction lines with
  | nil => exact List.Sublist.refl _
  | cons l rest ih =>
    rw [List.map_cons, keysOf, keysOf, List.filterMap_cons, List.filterMap_cons]
    cases l with
    | entry e =>
      rw [Line.reread]
      cases startsAsComment e.key.toList with
      | true => exact ih.cons _
      | false => exact ih.cons_cons _
    | comment c => exact ih
    | blank => exact ih

theorem nodup_keysOf_rereadLines {lines : List Line} (h : (keysOf lines).Nodup) :
    (keysOf (rereadLines lines)).Nodup := by
  refine (List.Sublist.trans (keysOf_map_reread_sublist _) ?_).nodup h
  split
  · exact (List.dropLast_sublist lines).filterMap _
  · exact List.Sublist.refl _

theorem rereadLines_eq_self_iff {lines : List Line} :
    rereadLines lines = lines ↔ (∀ l ∈ lines, l.Durable) ∧ lines.getLast? ≠ some .blank := by
  rw [rereadLines]
  by_cases hlast : lines.getLast? = some .blank
  · rw [if_pos hlast]
    refine ⟨fun h => ?_, fun h => absurd hlast h.2⟩
    have hlength := congrArg List.length h
    have hne : lines ≠ [] := by
      rintro rfl
      cases hlast
    have hpos := List.length_pos_iff.2 hne
    rw [List.length_map, List.length_dropLast] at hlength
    omega
  · rw [if_neg hlast]
    have hmap : lines.map Line.reread = lines ↔ ∀ l ∈ lines, l.reread = l := by
      conv_lhs => rw [← List.map_id lines, List.map_map]
      exact List.map_inj_left
    rw [hmap]
    simp only [Line.reread_eq_self_iff, ne_eq, hlast, not_false_eq_true, and_true]

/-! ### Documents -/

namespace Bundle

/-- The documents that come from texts without a fault and from creating and updating translations, with
the settings of the last step. What reading, creating and updating make without a pattern for deferred
entries counts as well. -/
inductive Obtained : Settings → Bundle → Prop
  | parse {s : Settings} {b : Bundle} {text : String} (hs : s.IsValid)
      (hparse : (b.parse s text).2 = none) : Obtained s (b.parse s text).1
  | read {s : Settings} {b : Bundle} {text : String} (hs : s.IsValid)
      (hread : (b.read s text).2 = none) : Obtained s (b.read s text).1
  | create {s s' : Settings} {reference d : Bundle} (hs : s.IsValid) (hreference : Obtained s' reference)
      {language : String} (hcreate : create s reference language = .ok d) : Obtained s d
  | createFrom {s s' : Settings} {reference : Bundle} (hs : s.IsValid)
      (hreference : Obtained s' reference) (language : String) :
      Obtained s (.createFrom s reference language)
  | rebuild {s s₁ s₂ : Settings} {b reference d : Bundle} (hs : s.IsValid) (hb : Obtained s₁ b)
      (hreference : Obtained s₂ reference) (hrebuild : b.rebuild s reference = .ok d) : Obtained s d
  | update {s s₁ s₂ : Settings} {b reference : Bundle} (hs : s.IsValid) (hb : Obtained s₁ b)
      (hreference : Obtained s₂ reference) : Obtained s (b.update s reference)

end Bundle

/-! ### The round trip -/

namespace Bundle

theorem readsAs_of_read {s : Settings} {b : Bundle} {text : String} (h : (b.read s text).2 = none) :
    ∃ lines, ReadsAs s.deferralMarker (Text.lines text.toList) lines ∧
      (b.read s text).1.content = .ofLines s.deferralMarker lines := by
  have hadd : (Reading.start.addLines s.deferralMarker 1 (Text.lines text.toList)).2 = none := h
  obtain ⟨lines, hlines⟩ := Reading.readsAs_of_addLines hadd
  exact ⟨lines, hlines, (Reading.addLines_of_readsAs hlines Reading.Coherent.start 1).2⟩

/-- A text that can be read, without a repeated key, is read without a remark. -/
theorem read_of_readsAs {s : Settings} {text : String} {lines : List Line}
    (h : ReadsAs s.deferralMarker (Text.lines text.toList) lines) (hnodup : (keysOf lines).Nodup)
    (b : Bundle) :
    (b.read s text).2 = none ∧ (b.read s text).1.report = .empty ∧
      (b.read s text).1.content = .ofLines s.deferralMarker lines := by
  obtain ⟨hstop, hcontent⟩ := Reading.addLines_of_readsAs h Reading.Coherent.start 1
  have hrepeated := Reading.repeated_addLines h Reading.Coherent.start 1 hnodup
  refine ⟨hstop, ?_, hcontent⟩
  have hread : b.read s text =
      (⟨b.file, b.language, Report.empty.add (Reading.ofText s.deferralMarker text).1.repeatedKeys,
        (Reading.ofText s.deferralMarker text).1.content⟩, none) := by
    rw [read]
    simp only [Reading.ofText, hstop]
  rw [hread, Report.add, if_pos]
  rw [Section.isEmpty, Reading.repeatedKeys, Reading.ofText, hrepeated]
  rfl

namespace Obtained

variable {s : Settings} {d : Bundle}

theorem legible (h : Obtained s d) : ∀ l ∈ d.content.lines, l.Legible := by
  induction h with
  | @parse s b text hs hparse =>
    rw [← congrArg Prod.fst (read_of_parse hparse)]
    exact Reading.legible_ofText _ _
  | read hs hread => exact Reading.legible_ofText _ _
  | create hs hreference hcreate ih =>
    rw [← (rebuild_eq_ok_iff.1 hcreate).2]
    exact Content.legible_update hs (fun l hl => absurd hl List.not_mem_nil) ih
  | createFrom hs hreference language ih =>
    exact Content.legible_update hs (fun l hl => absurd hl List.not_mem_nil) ih
  | rebuild hs hb hreference hrebuild ihb ih =>
    rw [← (rebuild_eq_ok_iff.1 hrebuild).2]
    exact Content.legible_update hs ihb ih
  | update hs hb hreference ihb ih => exact Content.legible_update hs ihb ih

/-- The index of a document that was read, created or updated is that of its lines, put together one by one. -/
theorem ofLines_lines (h : Obtained s d) : Content.ofLines s.deferralMarker d.content.lines = d.content := by
  have hread : ∀ {b : Bundle} {text : String}, (b.read s text).2 = none →
      Content.ofLines s.deferralMarker (b.read s text).1.content.lines = (b.read s text).1.content := by
    intro b text hread
    obtain ⟨lines, -, hcontent⟩ := readsAs_of_read hread
    rw [hcontent]
    exact Content.ofLines_lines _ _
  cases h with
  | parse hs hparse =>
    have hparsed := read_of_parse hparse
    rw [← congrArg Prod.fst hparsed]
    exact hread (congrArg Prod.snd hparsed)
  | read hs hfault => exact hread hfault
  | create hs hreference hcreate =>
    rw [← (rebuild_eq_ok_iff.1 hcreate).2]
    exact Content.ofLines_lines _ _
  | createFrom hs hreference language => exact Content.ofLines_lines _ _
  | rebuild hs hb hreference hrebuild =>
    rw [← (rebuild_eq_ok_iff.1 hrebuild).2]
    exact Content.ofLines_lines _ _
  | update hs hb hreference => exact Content.ofLines_lines _ _

theorem coherent (h : Obtained s d) : d.content.Coherent := by
  rw [← h.ofLines_lines]
  exact .ofLines _ _

end Obtained

/-- A document that was read without a fault, created or updated can be written and read again without a fault under
any settings whose deferral marker has a pattern. It has the same lines then exactly if no key looks like a comment,
no line ends in a carriage return and the last line is not blank, and in that case it has the same keys too, and the
same deferred keys under the same deferral marker. -/
theorem parse_text_of_obtained {s₀ : Settings} {d : Bundle} (hd : Obtained s₀ d) {s : Settings}
    (hpattern : Deferral.HasPattern s.deferralMarker) (b : Bundle) :
    let again := b.parse s d.content.text
    let AllDurable :=
      (∀ e, .entry e ∈ d.content.lines → startsAsComment e.key.toList = false) ∧
        ((∀ e, .entry e ∈ d.content.lines → e.value.toList.getLast? ≠ some '\r') ∧
          ∀ c, .comment c ∈ d.content.lines → c.text.toList.getLast? ≠ some '\r') ∧
        d.content.lines.getLast? ≠ some .blank
    again.2 = none ∧ again.1.report = .empty ∧
      (again.1.content.lines = d.content.lines ↔ AllDurable) ∧
      (AllDurable → again.1.content.keys = d.content.keys ∧
        (s.deferralMarker = s₀.deferralMarker → again.1.content.deferred = d.content.deferred)) := by
  intro again AllDurable
  have hcoherent := hd.coherent
  have hnodup : (keysOf d.content.lines).Nodup := hcoherent.keys_eq ▸ hcoherent.keys_nodup
  have hnodupAgain := nodup_keysOf_rereadLines hnodup
  obtain ⟨hstop, hreport, hcontent⟩ := read_of_readsAs (readsAs_text hd.legible s.deferralMarker) hnodupAgain b
  have hagain : again = ((b.read s d.content.text).1, none) := by
    show b.parse s d.content.text = _
    rw [parse_of_hasPattern hpattern, hstop]
    rfl
  rw [hagain]
  have hlines : (b.read s d.content.text).1.content.lines = rereadLines d.content.lines := by
    rw [hcontent, Content.lines_ofLines hnodupAgain]
  have hsame : (b.read s d.content.text).1.content.lines = d.content.lines ↔ AllDurable := by
    rw [hlines, rereadLines_eq_self_iff]
    refine ⟨fun ⟨hdurable, hlast⟩ => ⟨fun e he => (hdurable _ he).1,
      ⟨fun e he => (hdurable _ he).2, fun c hc => hdurable _ hc⟩, hlast⟩, ?_⟩
    rintro ⟨hkey, ⟨hvalue, hcomment⟩, hlast⟩
    refine ⟨fun l hl => ?_, hlast⟩
    cases l with
    | entry e => exact ⟨hkey e hl, hvalue e hl⟩
    | comment c => exact hcomment c hl
    | blank => trivial
  refine ⟨rfl, hreport, hsame, fun hall => ?_⟩
  have hback := hlines.symm.trans (hsame.2 hall)
  have hread : (b.read s d.content.text).1.content = .ofLines s.deferralMarker d.content.lines := by
    rw [hcontent, hback]
  refine ⟨?_, fun hmarker => ?_⟩
  · rw [hread, hcoherent.keys_eq, (Content.Coherent.ofLines _ _).keys_eq, Content.lines_ofLines hnodup]
  · rw [hread, hmarker, hd.ofLines_lines]

theorem parse_text_of_obtained_friendly :
    let d := (Bundle.empty.parse .standard "a : 1\n\n# ==> b =\n").1
    let again := Bundle.empty.parse .standard d.content.text
    Obtained .standard d ∧ again.2 = none ∧ again.1.report = .empty ∧ again.1.content.deferred = ["b"] ∧
      d.content.lines.getLast? ≠ some .blank := by
  intro d again
  have hpattern : Deferral.HasPattern Settings.standard.deferralMarker :=
    Deferral.hasPattern_of_short (by decide)
  have hread : ∀ text, Bundle.empty.parse .standard text =
      ((Bundle.empty.read .standard text).1, (Bundle.empty.read .standard text).2.map .malformed) :=
    fun text => parse_of_hasPattern hpattern
  have hd : Obtained .standard d := by
    refine .parse (by decide +kernel) ?_
    rw [hread]
    decide +kernel
  obtain ⟨hstop, hreport, hsame, hrest⟩ := parse_text_of_obtained hd hpattern .empty
  have hall := hsame.1 <| by
    simp only [d, hread]
    decide +kernel
  have hdeferred : d.content.deferred = ["b"] := by
    simp only [d, hread]
    decide +kernel
  exact ⟨hd, hstop, hreport, ((hrest hall).2 rfl).trans hdeferred, hall.2.2⟩

/-- Settings whose deferral marker is too long for a pattern are valid, but nothing can be read under them. -/
theorem text_of_obtained_not_parsed :
    let s : Settings := { deferralMarker := Deferral.letters 400000 }
    let d := (Bundle.empty.parse .standard "a = 1").1
    s.IsValid ∧ Obtained .standard d ∧ d.content.text = "a = 1" ∧
      (Bundle.empty.parse s d.content.text).2 = some (.pattern .tooLarge) := by
  intro s d
  have hpattern : Deferral.HasPattern Settings.standard.deferralMarker :=
    Deferral.hasPattern_of_short (by decide)
  have hread : Bundle.empty.parse .standard "a = 1" =
      ((Bundle.empty.read .standard "a = 1").1, (Bundle.empty.read .standard "a = 1").2.map .malformed) :=
    parse_of_hasPattern hpattern
  have hd : Obtained .standard d := by
    refine .parse (by decide +kernel) ?_
    rw [hread]
    decide +kernel
  have htext : d.content.text = "a = 1" := by
    simp only [d, hread]
    decide +kernel
  refine ⟨Deferral.isValid_letters (by decide), hd, htext, ?_⟩
  rw [parse_of_error (Deferral.pattern_letters (by decide))]

end Bundle

end BundleCheck
