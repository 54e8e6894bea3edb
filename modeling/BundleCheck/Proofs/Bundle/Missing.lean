import BundleCheck.Bundle.Basic
import BundleCheck.Proofs.Bundle.Deferral
import BundleCheck.Proofs.Bundle.Update

/-!
# Keys that an update leaves missing

After an update each key of the reference should be a key of the translation or be deferred in it. A key
that the translation has stays its key, and one that it lacks is written into a comment. Whether that
comment defers the key is up to the key alone: the comment has to be one that can hold it. The keys that
are still missing are then known exactly.
-/

namespace BundleCheck

namespace Content

variable {s : Settings} {d reference : Content} {key : String}

theorem canHold_of_mem_deferred_update (h : key ∈ (d.update s reference).deferred) :
    Deferral.canHold key = true := by
  obtain ⟨line, -, hline⟩ := mem_deferred_ofLines.1 h
  cases line with
  | entry e => cases hline
  | comment c => exact Deferral.canHold_of_ofComment? hline
  | blank => cases hline

theorem mem_deferred_update (hs : s.IsValid) (hd : d.Coherent) (hlegible : ∀ l ∈ reference.lines, l.Legible)
    (hkey : key ∈ keysOf reference.lines) (hlacks : key ∉ d.keys) (hhold : Deferral.canHold key = true) :
    key ∈ (d.update s reference).deferred := by
  obtain ⟨e, he, rfl⟩ := exists_entry_of_mem_keysOf hkey
  refine mem_deferred_ofLines.2 ⟨_, List.mem_flatMap.2 ⟨_, he, counterpart_mem_replacement s d e⟩, ?_⟩
  rw [counterpart, hd.entry?_eq_none_iff.2 hlacks]
  refine hs.ofComment?_deferralText hhold e.key_ne_empty fun v hv => ?_
  split at hv
  · exact Option.some.inj hv ▸ (hlegible _ he).2.2.1
  · cases hv

/-- Each key of the reference is held by the updated translation exactly if the translation had it or a
comment can hold it. -/
theorem held_update_iff (hs : s.IsValid) (hd : d.Coherent) (hreference : reference.Coherent)
    (hlegible : ∀ l ∈ reference.lines, l.Legible) (hkey : key ∈ reference.keys) :
    (key ∈ (d.update s reference).keys ∨ key ∈ (d.update s reference).deferred) ↔
      (key ∈ d.keys ∨ Deferral.canHold key = true) := by
  have hkeys : key ∈ (d.update s reference).keys ↔ key ∈ d.keys := by
    rw [keys_update hd hreference, List.mem_filter, hd.contains_iff]
    exact and_iff_right hkey
  rw [hkeys]
  constructor
  · exact Or.imp_right canHold_of_mem_deferred_update
  · rintro (hown | hhold)
    · exact .inl hown
    · by_cases hown : key ∈ d.keys
      · exact .inl hown
      · exact .inr (mem_deferred_update hs hd hlegible (hreference.keys_eq ▸ hkey) hown hhold)

theorem missing_update (hs : s.IsValid) (hd : d.Coherent) (hreference : reference.Coherent)
    (hlegible : ∀ l ∈ reference.lines, l.Legible) :
    Keys.missing false reference (d.update s reference) =
      reference.keys.filter fun key => !d.contains key && !Deferral.canHold key := by
  refine List.filter_congr fun key hkey => ?_
  have hheld := held_update_iff hs hd hreference hlegible hkey
  have hupdated : (d.update s reference).contains key = true ↔ key ∈ (d.update s reference).keys :=
    (Coherent.update s d reference).contains_iff
  have hdefers : (d.update s reference).defers key = true ↔ key ∈ (d.update s reference).deferred :=
    List.contains_iff_mem
  rw [← hupdated, ← hdefers, ← hd.contains_iff, ← Bool.or_eq_true, ← Bool.or_eq_true] at hheld
  rw [Bool.false_or, ← Bool.not_or, ← Bool.not_or, Bool.eq_iff_iff.2 hheld]

end Content

theorem MissingTranslations.findings_eq_nil_iff {strict : Bool} {translation reference : Content} :
    findings strict translation reference = [] ↔ Keys.missing strict reference translation = [] := by
  rw [findings, List.map_eq_nil_iff]

namespace Bundle

/-- After a reference has been read and a translation updated from it, or created, the keys of the
reference that are neither keys of the translation nor deferred in it are those that the translation
lacked and no comment can hold. The check for missing translations finds nothing exactly if there are
none. -/
theorem held_after_update_iff {s : Settings} (hs : s.IsValid) {t : Bundle} (ht : t.Built) (s₀ : Settings)
    (b : Bundle) (text language : String) :
    let reference := (b.read s₀ text).1
    let updated := t.update s reference
    let created := Bundle.createFrom s reference language
    (∀ key ∈ reference.content.keys,
      ((key ∈ updated.content.keys ∨ key ∈ updated.content.deferred) ↔
        (key ∈ t.content.keys ∨ Deferral.canHold key = true)) ∧
      ((key ∈ created.content.keys ∨ key ∈ created.content.deferred) ↔ Deferral.canHold key = true)) ∧
    (Keys.missing false reference.content updated.content =
        reference.content.keys.filter (fun key => !t.content.contains key && !Deferral.canHold key) ∧
      Keys.missing false reference.content created.content =
        reference.content.keys.filter fun key => !Deferral.canHold key) ∧
    (MissingTranslations.findings false updated.content reference.content = [] ↔
      ∀ key ∈ reference.content.keys, key ∈ t.content.keys ∨ Deferral.canHold key = true) ∧
    (MissingTranslations.findings false created.content reference.content = [] ↔
      ∀ key ∈ reference.content.keys, Deferral.canHold key = true) := by
  intro reference updated created
  have hd := ht.coherent
  have hreference : reference.content.Coherent := (Reading.coherent_ofText _ _).content
  have hlegible : ∀ l ∈ reference.content.lines, l.Legible := Reading.legible_ofText _ _
  have hmissing := Content.missing_update hs hd hreference hlegible
  have hcreated := Content.missing_update hs Content.Coherent.empty hreference hlegible
  have hfree : ∀ key, Content.empty.contains key = false := fun key => rfl
  simp only [hfree, Bool.not_false, Bool.true_and] at hcreated
  refine ⟨fun key hkey => ⟨Content.held_update_iff hs hd hreference hlegible hkey, ?_⟩,
    ⟨hmissing, hcreated⟩, ?_, ?_⟩
  · refine (Content.held_update_iff hs Content.Coherent.empty hreference hlegible hkey).trans ?_
    exact or_iff_right List.not_mem_nil
  · rw [MissingTranslations.findings_eq_nil_iff]
    refine (Eq.congr_left hmissing).trans ?_
    rw [List.filter_eq_nil_iff]
    refine forall₂_congr fun key _ => ?_
    rw [← hd.contains_iff]
    cases t.content.contains key <;> simp
  · rw [MissingTranslations.findings_eq_nil_iff]
    refine (Eq.congr_left hcreated).trans ?_
    rw [List.filter_eq_nil_iff]
    simp

theorem held_after_update_iff_plain_keys :
    let reference := (Bundle.empty.read .standard "a = 1\nb.c : 2").1
    let t := (Bundle.empty.read .standard "a = eins").1
    Settings.standard.IsValid ∧ t.Built ∧
      Keys.missing false reference.content (t.update .standard reference).content = [] := by
  intro reference t
  have hs : Settings.standard.IsValid := by decide +kernel
  have ht : t.Built := .read _ _ .empty
  obtain ⟨-, ⟨hmissing, -⟩, -⟩ :=
    held_after_update_iff hs ht .standard .empty "a = 1\nb.c : 2" "de"
  refine ⟨hs, ht, hmissing.trans ?_⟩
  decide +kernel

/-- A key of two words is in no comment, and of a key with a separator in it a part is deferred instead. -/
theorem spaced_key_is_missing :
    let reference := (Bundle.empty.read .standard "my key = v\nlink\\:to = w").1
    let created := Bundle.createFrom .standard reference "de"
    Settings.standard.IsValid ∧ reference.content.keys = ["my key", "link\\:to"] ∧
      created.content.keys = [] ∧ created.content.deferred = ["link\\"] ∧
      Keys.missing false reference.content created.content = ["my key", "link\\:to"] ∧
      MissingTranslations.findings false created.content reference.content ≠ [] := by
  decide +kernel

end Bundle

end BundleCheck
