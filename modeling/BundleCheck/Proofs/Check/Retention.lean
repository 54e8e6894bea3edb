import BundleCheck.Proofs.Bundle.Renewal
import Mathlib.Data.List.Nodup

/-!
# What checks say about entries that an update keeps

An update keeps the entries of a translation whose keys are in the reference, each of them unchanged and
once, in the order of the reference. The checks that compare values go over the entries one by one and look
up the counterpart of each, so they find the same before and after, up to the lines and the order. The
entries that were dropped had no counterpart, so nothing was found for them. What a strict reader misses
does not depend on order at all.
-/

namespace BundleCheck

namespace Content

variable {d reference : Content} {s : Settings} {e : Entry}

/-! ### Entries -/

def entries (d : Content) : List Entry := d.lines.filterMap Line.entry?

theorem mem_entries : e ∈ d.entries ↔ .entry e ∈ d.lines := by
  rw [entries, List.mem_filterMap]
  constructor
  · rintro ⟨line, hline, hentry⟩
    cases line with
    | entry own => exact Option.some.inj hentry ▸ hline
    | comment c => cases hentry
    | blank => cases hentry
  · exact fun h => ⟨_, h, rfl⟩

theorem map_key_entries (d : Content) : d.entries.map Entry.key = keysOf d.lines := by
  rw [entries, List.map_filterMap]
  rfl

theorem Coherent.nodup_entries (hd : d.Coherent) : d.entries.Nodup := by
  refine List.Nodup.of_map Entry.key ?_
  rw [map_key_entries, ← hd.keys_eq]
  exact hd.keys_nodup

theorem mem_entries_update (hd : d.Coherent) (hreference : reference.Coherent) :
    e ∈ (d.update s reference).entries ↔ e ∈ d.entries ∧ e.key ∈ reference.keys := by
  have hupdated := Coherent.update s d reference
  have hlookup : ∀ {c : Content}, c.Coherent → (e ∈ c.entries ↔ c.entry? e.key = some e) := fun hc => by
    rw [mem_entries, hc.entry?_eq_some_iff, and_iff_left rfl]
  rw [hlookup hupdated, hlookup hd]
  constructor
  · intro h
    have hkey : e.key ∈ (d.update s reference).keys := by
      rw [hupdated.keys_eq]
      exact mem_keysOf (mem_of_entry?_eq_some h).1
    rw [keys_update hd hreference, List.mem_filter] at hkey
    exact ⟨(entry?_update hd hreference hkey.1).symm.trans h, hkey.1⟩
  · rintro ⟨h, hkey⟩
    exact (entry?_update hd hreference hkey).trans h

/-- The entries of an updated translation are those that the reference has a place for. -/
theorem entries_update_perm (hd : d.Coherent) (hreference : reference.Coherent) :
    (d.update s reference).entries.Perm (d.entries.filter fun e => reference.contains e.key) := by
  rw [List.perm_ext_iff_of_nodup (Coherent.update s d reference).nodup_entries (hd.nodup_entries.filter _)]
  intro e
  rw [mem_entries_update hd hreference, List.mem_filter, hreference.contains_iff]

end Content

/-! ### Checks of entries -/

/-- The finding with its line left open. -/
def Finding.unplaced (f : Finding) : Finding :=
  { f with position := f.position.map fun p => { p with line := 0 } }

/-- Only entries are looked at, and what is found about one does not depend on where it stands. -/
structure InspectsEntries (f : Nat → Line → List Finding) : Prop where
  entry : ∀ number e, (f number (.entry e)).map Finding.unplaced = f 0 (.entry e)
  comment : ∀ number c, f number (.comment c) = []
  blank : ∀ number, f number .blank = []

theorem InspectsEntries.map_unplaced_inspect {f : Nat → Line → List Finding} (hf : InspectsEntries f)
    (d : Content) : (d.inspect f).map Finding.unplaced = d.entries.flatMap fun e => f 0 (.entry e) := by
  have hline : ∀ number (line : Line),
      (f number line).map Finding.unplaced = line.entry?.toList.flatMap fun e => f 0 (.entry e) := by
    intro number line
    cases line with
    | entry e => simpa [Line.entry?] using hf.entry number e
    | comment c => simp [hf.comment, Line.entry?]
    | blank => simp [hf.blank, Line.entry?]
  -- The numbering is that of the lines from any number on.
  have hlines : ∀ (lines : List Line) (number : Nat),
      ((lines.zipIdx number).flatMap fun p => f p.2 p.1).map Finding.unplaced =
        (lines.filterMap Line.entry?).flatMap fun e => f 0 (.entry e) := by
    intro lines
    induction lines with
    | nil => exact fun _ => rfl
    | cons line rest ih =>
      intro number
      rw [List.zipIdx_cons, List.flatMap_cons, List.map_append, ih, hline]
      cases hentry : line.entry? with
      | none => rw [List.filterMap_cons_none hentry, Option.toList_none, List.flatMap_nil, List.nil_append]
      | some e =>
        rw [List.filterMap_cons_some hentry, Option.toList_some, List.flatMap_cons, List.flatMap_cons,
          List.flatMap_nil, List.append_nil]
  exact hlines d.lines 1

theorem InspectsEntries.map_key_inspect {f : Nat → Line → List Finding} (hf : InspectsEntries f) (d : Content) :
    (d.inspect f).map Finding.key = d.entries.flatMap fun e => (f 0 (.entry e)).map Finding.key := by
  rw [← List.map_flatMap, ← hf.map_unplaced_inspect, List.map_map]
  rfl

theorem Agreement.inspectsEntries (remark? : String → String → Option Remark)
    (counterpart : String → Option String) : InspectsEntries (inspectLine remark? counterpart) where
  entry number e := by
    rw [inspectLine, inspectLine]
    cases counterpart e.key with
    | none => rfl
    | some value =>
      rw [List.map_map]
      rfl
  comment _ _ := rfl
  blank _ := rfl

theorem DanglingKeys.inspectsEntries (isKnown : String → Bool) : InspectsEntries (inspectLine isKnown) where
  entry number e := by
    rw [inspectLine, inspectLine]
    cases isKnown e.key <;> rfl
  comment _ _ := rfl
  blank _ := rfl

/-! ### Findings after an update -/

section Update

variable {d reference : Content} (hd : d.Coherent) (hreference : reference.Coherent) (s : Settings)

include hreference

/-- Nothing is found about an entry without a counterpart. -/
theorem Agreement.flatMap_filter_contains (remark? : String → String → Option Remark) (entries : List Entry) :
    (entries.filter fun e => reference.contains e.key).flatMap
        (fun e => inspectLine remark? reference.value? 0 (.entry e)) =
      entries.flatMap fun e => inspectLine remark? reference.value? 0 (.entry e) := by
  induction entries with
  | nil => rfl
  | cons e rest ih =>
    rw [List.filter_cons, List.flatMap_cons, ← ih]
    cases hcontains : reference.contains e.key with
    | true => rfl
    | false =>
      rw [hreference.contains_eq_isSome, Option.isSome_eq_false_iff, Option.isNone_iff_eq_none]
        at hcontains
      rw [inspectLine, Content.value?, hcontains]
      rfl

include hd

/-- A comparison finds the same in an updated translation, in another order and on other lines. -/
theorem Agreement.compare_update_perm (remark? : String → String → Option Remark) :
    ((compare remark? (d.update s reference) reference).map Finding.unplaced).Perm
      ((compare remark? d reference).map Finding.unplaced) := by
  rw [compare, compare, (inspectsEntries _ _).map_unplaced_inspect, (inspectsEntries _ _).map_unplaced_inspect,
    ← flatMap_filter_contains hreference remark? d.entries]
  exact (Content.entries_update_perm hd hreference).flatMap_right _

theorem DanglingKeys.findings_update : findings (d.update s reference) reference = [] := by
  rw [← List.map_eq_nil_iff (f := Finding.unplaced), findings, (inspectsEntries _).map_unplaced_inspect,
    List.flatMap_eq_nil_iff]
  intro e he
  rw [inspectLine, if_pos]
  exact hreference.contains_iff.2 ((Content.mem_entries_update hd hreference).1 he).2

theorem MissingTranslations.findings_update :
    findings true (d.update s reference) reference = findings true d reference := by
  have hcontains : ∀ key ∈ reference.keys, (d.update s reference).contains key = d.contains key := by
    intro key hkey
    rw [(Content.Coherent.update s d reference).contains_eq_isSome, hd.contains_eq_isSome,
      Content.entry?_update hd hreference hkey]
  rw [findings, findings, Keys.missing, Keys.missing]
  refine congrArg _ (List.filter_congr fun key hkey => ?_)
  rw [hcontains key hkey, Bool.true_or, Bool.true_or]

end Update

/-! ### Documents -/

theorem Check.run_of_pair {c : Check} {findings : Content → Content → List Finding}
    (h : c.procedure = .pair findings) (translation reference : Content) :
    c.run translation (some reference) = .ok ⟨c.name.label, findings translation reference⟩ := by
  unfold run
  rw [h]

theorem Check.exists_compare {c : Check}
    (h : c.name ∈ [.emptyTranslations, .formattingValues, .punctuation, .startsWithTheSameCase]) :
    ∃ remark?, c.procedure = .pair (Agreement.compare remark?) := by
  cases c with
  | emptyTranslations => exact ⟨_, rfl⟩
  | formattingValues => exact ⟨_, rfl⟩
  | punctuation o => exact ⟨_, rfl⟩
  | startsWithTheSameCase o => exact ⟨_, rfl⟩
  | _ => simp [name] at h

namespace Bundle

/-- After an update the checks that compare values find what they found before, up to the lines and the
order. A strict reader misses the same keys in the same order, and no key is left dangling. -/
theorem findings_after_update {t reference : Bundle} (ht : t.Built) (hreference : reference.Built)
    (s : Settings) :
    let updated := t.update s reference
    (∀ c : Check, c.name ∈ [.emptyTranslations, .formattingValues, .punctuation, .startsWithTheSameCase] →
      ∃ before after,
        c.run t.content (some reference.content) = .ok ⟨c.name.label, before⟩ ∧
          c.run updated.content (some reference.content) = .ok ⟨c.name.label, after⟩ ∧
          (after.map Finding.unplaced).Perm (before.map Finding.unplaced)) ∧
    (Check.missingTranslations true).run updated.content (some reference.content) =
        (Check.missingTranslations true).run t.content (some reference.content) ∧
    Check.danglingKeys.run updated.content (some reference.content) =
      .ok ⟨CheckName.danglingKeys.label, []⟩ := by
  intro updated
  have hcontent : updated.content = t.content.update s reference.content := rfl
  refine ⟨fun c hc => ?_, ?_, ?_⟩
  · obtain ⟨remark?, hcompare⟩ := Check.exists_compare hc
    exact ⟨_, _, Check.run_of_pair hcompare _ _, Check.run_of_pair hcompare _ _,
      Agreement.compare_update_perm ht.coherent hreference.coherent s remark?⟩
  · rw [Check.run_of_pair rfl, Check.run_of_pair rfl, hcontent,
      MissingTranslations.findings_update ht.coherent hreference.coherent s]
  · rw [Check.run_of_pair rfl, hcontent, DanglingKeys.findings_update ht.coherent hreference.coherent s]
    rfl

/-- The entry for `b` moves from the first line to the second, and the one for `c` is dropped. -/
theorem findings_after_update_reordered :
    let reference := (Bundle.empty.read .standard "a = One\nb = %s\nd = Four").1
    let t := (Bundle.empty.read .standard "b = %d\nc = %x\na = Eins").1
    let updated := t.update .standard reference
    t.Built ∧ reference.Built ∧
      Check.formattingValues.run t.content (some reference.content) =
        .ok ⟨"FormattingValues",
          [.error (some (.atColumn 1 1)) (some "b") "Expected \"%s\", found \"%d\"."]⟩ ∧
      Check.formattingValues.run updated.content (some reference.content) =
        .ok ⟨"FormattingValues",
          [.error (some (.atColumn 2 1)) (some "b") "Expected \"%s\", found \"%d\"."]⟩ ∧
      (Check.missingTranslations true).run updated.content (some reference.content) =
        .ok ⟨"MissingTranslations", [.warning none (some "d") "Missing translation."]⟩ ∧
      Check.danglingKeys.run t.content (some reference.content) =
        .ok ⟨"DanglingKeys",
          [.error (some (.onLine 2)) (some "c") "Key not present in reference file."]⟩ ∧
      Check.danglingKeys.run updated.content (some reference.content) = .ok ⟨"DanglingKeys", []⟩ := by
  intro reference t updated
  have ht : t.Built := .read _ _ .empty
  have hreference : reference.Built := .read _ _ .empty
  obtain ⟨-, hmissing, hdangling⟩ := findings_after_update ht hreference .standard
  refine ⟨ht, hreference, by decide +kernel, by decide +kernel, hmissing.trans ?_, by decide +kernel, hdangling⟩
  decide +kernel

end Bundle

end BundleCheck
