import BundleCheck.Proofs.Run.Effect

/-!
# The effect of a second run

Whatever a run has written is a text that can be read, so a second run updates it once more. By what is
known of two updates, the second run finds each entry in its place and leaves each file as it is exactly if
the entries that the first run kept are durable.
-/

namespace BundleCheck

variable {s : Settings} {ways : Ways} {reference : Content}

/-- Every base file and translation of it satisfies a property. -/
def ForPairs (s : Settings) (P : String → String → Prop) : Prop :=
  ∀ base ∈ s.files, ∀ language ∈ s.languages, ∀ path, s.languageFile base language = .ok path → P base path

/-- An entry of a translation that can be read, for a key of its reference. -/
def IsKept (s : Settings) (ways : Ways) (v : View) (base path : String) (e : Entry) : Prop :=
  ∃ reference d, contentAt? s ways v base = some reference ∧ contentAt? s ways v path = some d ∧
    .entry e ∈ d.lines ∧ e.key ∈ reference.keys

theorem contentAt?_eq_some_iff {v : View} {path : String} {d : Content} :
    contentAt? s ways v path = some d ↔
      ∃ l text, ways path = .file l ∧ v l = some (.file (.text text)) ∧
        Content.ofText? s.deferralMarker text = some d := by
  rw [contentAt?]
  cases ways path with
  | directory => simp
  | nowhere => simp
  | file l => rcases hnode : v l with - | ⟨(text | bytes) | -⟩ <;> simp [hnode]

theorem coherent_of_contentAt? {v : View} {path : String} {d : Content} (h : contentAt? s ways v path = some d) :
    d.Coherent := by
  obtain ⟨l, text, hl, hnode, hread⟩ := contentAt?_eq_some_iff.1 h
  exact Content.coherent_of_ofText? hread

theorem legible_of_contentAt? {v : View} {path : String} {d : Content} (h : contentAt? s ways v path = some d) :
    ∀ l ∈ d.lines, l.Legible := by
  obtain ⟨l, text, hl, hnode, hread⟩ := contentAt?_eq_some_iff.1 h
  exact Content.legible_of_ofText? hread

theorem IsRenewed.node {path : String} {v v' : View} (h : IsRenewed s ways reference path v v') {l : Location}
    (hl : ways path = .file l) : renewedNode s reference (v l) = some (v' l) := by
  rcases h with ⟨k, hk, hnode⟩ | ⟨hnowhere, -⟩
  · obtain rfl := Tree.Spot.file.inj (hl.symm.trans hk)
    exact hnode
  · rw [hl] at hnowhere
    cases hnowhere

section Text

variable (hs : s.IsValid) (hreference : reference.Coherent) (hlegible : ∀ l ∈ reference.lines, l.Legible)

include hs hlegible

theorem ofText?_written {d : Content} (hd : ∀ l ∈ d.lines, l.Legible) :
    Content.ofText? s.deferralMarker (d.update s reference).text =
      some (.ofLines s.deferralMarker (rereadLines (d.update s reference).lines)) :=
  Content.ofText?_text (Content.legible_update hs hd hlegible) s.deferralMarker

include hreference

theorem renewedText_written {d : Content} (hd : d.Coherent) (hdLegible : ∀ l ∈ d.lines, l.Legible)
    (hdurable : ∀ e, .entry e ∈ d.lines → e.key ∈ reference.keys → (Line.entry e).Durable) :
    renewedText s reference (d.update s reference).text = (d.update s reference).text := by
  rw [renewedText, ofText?_written hs hlegible hdLegible]
  exact ((Content.update_reread_iff hs hd hdLegible hreference hlegible).2 hdurable).1

theorem renewedText_createdText : renewedText s reference (createdText s reference) = createdText s reference := by
  have hcreated : Content.Coherent (Content.empty.update s reference) := .update s _ _
  have hcreatedLegible :=
    Content.legible_update hs (fun l hl => absurd hl List.not_mem_nil : ∀ l ∈ Content.empty.lines, l.Legible)
      hlegible
  refine renewedText_written hs hreference hlegible hcreated hcreatedLegible fun e he _ => ?_
  have hkey := mem_keysOf he
  rw [← hcreated.keys_eq, Content.keys_update Content.Coherent.empty hreference] at hkey
  exact absurd (List.mem_filter.1 hkey).2 Bool.false_ne_true

theorem renewedNode_eq {n n' n'' : Option Node} (hn : renewedNode s reference n = some n')
    (hn' : renewedNode s reference n' = some n'')
    (hdurable : ∀ text d e, n = some (.file (.text text)) →
      Content.ofText? s.deferralMarker text = some d → .entry e ∈ d.lines → e.key ∈ reference.keys →
        (Line.entry e).Durable) : n'' = n' := by
  rcases n with - | ⟨(text | bytes) | -⟩
  · obtain rfl := Option.some.inj hn
    cases hcreate : s.create with
    | false =>
      simp only [hcreate, Bool.false_eq_true, if_false, renewedNode, Option.some.injEq] at hn' ⊢
      exact hn'.symm
    | true =>
      simp only [hcreate, if_true, renewedNode, renewedText_createdText hs hreference hlegible,
        Option.some.injEq] at hn' ⊢
      exact hn'.symm
  · obtain rfl := Option.some.inj hn
    have hsame : renewedText s reference (renewedText s reference text) = renewedText s reference text := by
      cases hread : Content.ofText? s.deferralMarker text with
      | none =>
        have hkeep : renewedText s reference text = text := by rw [renewedText, hread]
        rw [hkeep, hkeep]
      | some d =>
        have hwritten : renewedText s reference text = (d.update s reference).text := by
          rw [renewedText, hread]
        rw [hwritten]
        exact renewedText_written hs hreference hlegible (Content.coherent_of_ofText? hread)
          (Content.legible_of_ofText? hread) fun e he hkey => hdurable text d e rfl hread he hkey
    simp only [renewedNode, hsame, Option.some.injEq] at hn'
    exact hn'.symm
  · cases hn
  · cases hn

end Text

/-! ### Two runs -/

namespace Settings.IsSpread

variable {v v' v'' : View} {base language path : String}

theorem renewed (h : s.IsSpread ways) (hv : projectEffect s ways v = some v') (hbase : base ∈ s.files)
    (hlanguage : language ∈ s.languages) (hpath : s.languageFile base language = .ok path) :
    ∃ reference, contentAt? s ways v base = some reference ∧ IsRenewed s ways reference path v v' := by
  obtain ⟨reference, hreference, hlanguages⟩ := h.renewed_of_projectEffect hv base hbase
  obtain ⟨path', hpath', hrenewed⟩ := hlanguages language hlanguage
  obtain rfl := Except.ok.inj (hpath'.symm.trans hpath)
  exact ⟨reference, hreference, hrenewed⟩

/-- What two runs make of a translation that can be read. -/
theorem renewed_twice (hs : s.IsValid) (h : s.IsSpread ways) (hv : projectEffect s ways v = some v')
    (hv' : projectEffect s ways v' = some v'') (hbase : base ∈ s.files) (hlanguage : language ∈ s.languages)
    (hpath : s.languageFile base language = .ok path) {d : Content}
    (hreference : contentAt? s ways v base = some reference) (hd : contentAt? s ways v path = some d) :
    let written := d.update s reference
    let back := Content.ofLines s.deferralMarker (rereadLines written.lines)
    ∃ l, ways path = .file l ∧ v' l = some (.file (.text written.text)) ∧
      contentAt? s ways v' path = some back ∧ v'' l = some (.file (.text (back.update s reference).text)) := by
  intro written back
  obtain ⟨l, text, hl, hnode, hread⟩ := contentAt?_eq_some_iff.1 hd
  have hwrittenRead : Content.ofText? s.deferralMarker written.text = some back :=
    ofText?_written hs (legible_of_contentAt? hreference) (legible_of_contentAt? hd)
  have hnode' : v' l = some (.file (.text written.text)) := by
    obtain ⟨reference', hreference', hrenewed⟩ := h.renewed hv hbase hlanguage hpath
    obtain rfl := Option.some.inj (hreference'.symm.trans hreference)
    have hnext := hrenewed.node hl
    rw [hnode, renewedNode, renewedText, hread] at hnext
    exact (Option.some.inj hnext).symm
  refine ⟨l, hl, hnode', contentAt?_eq_some_iff.2 ⟨l, _, hl, hnode', hwrittenRead⟩, ?_⟩
  obtain ⟨reference', hreference', hrenewed⟩ := h.renewed hv' hbase hlanguage hpath
  rw [h.contentAt?_base hv hbase] at hreference'
  obtain rfl := Option.some.inj (hreference'.symm.trans hreference)
  have hnext := hrenewed.node hl
  rw [hnode', renewedNode, renewedText, hwrittenRead] at hnext
  exact (Option.some.inj hnext).symm

/-- A second run leaves everything as it is if the kept entries are durable. -/
theorem effect_eq_of_durable (hs : s.IsValid) (h : s.IsSpread ways) (hv : projectEffect s ways v = some v')
    (hv' : projectEffect s ways v' = some v'')
    (hdurable : ForPairs s fun base path => ∀ e, IsKept s ways v base path e → (Line.entry e).Durable) :
    v'' = v' := by
  funext l
  by_cases hown : ∃ base ∈ s.files, ownsAsBase s ways base l
  · obtain ⟨base, hbase, language, hlanguage, path, hpath, hl⟩ := hown
    obtain ⟨reference, hreference, hrenewed⟩ := h.renewed hv hbase hlanguage hpath
    obtain ⟨reference', hreference', hrenewed'⟩ := h.renewed hv' hbase hlanguage hpath
    rw [h.contentAt?_base hv hbase] at hreference'
    obtain rfl := Option.some.inj (hreference.symm.trans hreference')
    refine renewedNode_eq hs (coherent_of_contentAt? hreference) (legible_of_contentAt? hreference)
      (hrenewed.node hl) (hrenewed'.node hl) fun text d e htext hd he hkey => ?_
    exact hdurable base hbase language hlanguage path hpath e
      ⟨reference, d, hreference, contentAt?_eq_some_iff.2 ⟨l, text, hl, htext, hd⟩, he, hkey⟩
  · exact h.eq_of_projectEffect hv' fun base hbase hl => hown ⟨base, hbase, hl⟩

/-- A second run leaves all as it is, and finds each kept entry in its place, exactly if the kept entries are
durable. -/
theorem effect_stable_iff (hs : s.IsValid) (h : s.IsSpread ways) (hv : projectEffect s ways v = some v')
    (hv' : projectEffect s ways v' = some v'') :
    (v'' = v' ∧ ForPairs s fun base path => ∀ e, IsKept s ways v base path e →
        ∃ d, contentAt? s ways v'' path = some d ∧ e.key ∈ d.keys) ↔
      ForPairs s fun base path => ∀ e, IsKept s ways v base path e → (Line.entry e).Durable := by
  constructor
  · rintro ⟨rfl, hfound⟩ base hbase language hlanguage path hpath e ⟨reference, d, hreference, hd, he, hkey⟩
    obtain ⟨l, hl, hnode, hback, hnext⟩ :=
      h.renewed_twice hs hv hv' hbase hlanguage hpath hreference hd
    have hcoherent := coherent_of_contentAt? hd
    have hcoherentReference := coherent_of_contentAt? hreference
    refine (Content.update_reread_iff hs hcoherent (legible_of_contentAt? hd) hcoherentReference
      (legible_of_contentAt? hreference)).1 ⟨?_, fun key hwritten => ?_⟩ e he hkey
    · have hsame := hnext.symm.trans hnode
      simpa using hsame
    · rw [Content.keys_update hcoherent hcoherentReference, List.mem_filter, hcoherent.contains_iff,
        hcoherent.keys_eq] at hwritten
      obtain ⟨own, hown, rfl⟩ := exists_entry_of_mem_keysOf hwritten.2
      obtain ⟨d', hd', hkey'⟩ := hfound base hbase language hlanguage path hpath own
        ⟨reference, d, hreference, hd, hown, hwritten.1⟩
      obtain rfl := Option.some.inj (hd'.symm.trans hback)
      exact hkey'
  · intro hdurable
    obtain rfl := h.effect_eq_of_durable hs hv hv' hdurable
    refine ⟨rfl, ?_⟩
    rintro base hbase language hlanguage path hpath e ⟨reference, d, hreference, hd, he, hkey⟩
    obtain ⟨l, hl, hnode, hback, -⟩ := h.renewed_twice hs hv hv' hbase hlanguage hpath hreference hd
    have hcoherent := coherent_of_contentAt? hd
    have hcoherentReference := coherent_of_contentAt? hreference
    have hkeep := (Content.update_reread_iff hs hcoherent (legible_of_contentAt? hd) hcoherentReference
      (legible_of_contentAt? hreference)).2 fun own hown hownKey =>
        hdurable base hbase language hlanguage path hpath own
          ⟨reference, d, hreference, hd, hown, hownKey⟩
    refine ⟨_, hback, hkeep.2 e.key ?_⟩
    rw [Content.keys_update hcoherent hcoherentReference, List.mem_filter, hcoherent.contains_iff,
      hcoherent.keys_eq]
    exact ⟨hkey, mem_keysOf he⟩

end Settings.IsSpread

end BundleCheck
