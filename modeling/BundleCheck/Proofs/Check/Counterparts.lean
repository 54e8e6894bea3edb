import BundleCheck.Proofs.Check.Retention
import BundleCheck.Proofs.Check.Scope

/-!
# Entries and their counterparts

A comparison goes over the entries of a translation and looks up the key of each in the reference. In a file that
operations have made an entry is the only one with its key, so the counterpart is found wherever it stands, and
what is found under a key depends on the two values alone.
-/

namespace BundleCheck

open Agreement (Remark)

theorem Content.Coherent.value?_eq_some_iff {d : Content} (hd : d.Coherent) {key value : String} :
    d.value? key = some value ↔ ∃ e, .entry e ∈ d.lines ∧ e.key = key ∧ e.value = value := by
  rw [value?, Option.map_eq_some_iff]
  simp only [hd.entry?_eq_some_iff, and_assoc]

theorem Content.mem_lines_of_line? {d : Content} {number : Nat} {line : Line} (h : d.line? number = some line) :
    line ∈ d.lines :=
  List.mem_of_getElem? (line?_eq_some_iff.1 h).2

namespace Agreement

/-- The finding in which a remark on an entry is made. -/
def Remark.finding (r : Remark) (number : Nat) (key : String) : Finding :=
  ⟨r.severity, some ⟨number, r.column⟩, some key, r.message⟩

variable {remark? : String → String → Option Remark} {translation reference : Content} {number : Nat} {e : Entry}

theorem inspectLine_entry (remark? : String → String → Option Remark) (counterpart : String → Option String)
    (number : Nat) (e : Entry) :
    inspectLine remark? counterpart number (.entry e) =
      ((counterpart e.key).bind (remark? e.value)).toList.map (·.finding number e.key) := by
  rw [inspectLine]
  cases counterpart e.key <;> rfl

theorem pointing (remark? : String → String → Option Remark) (counterpart : String → Option String) :
    Content.Pointing (inspectLine remark? counterpart) := by
  intro number line x hx
  cases line with
  | entry e =>
    rw [inspectLine_entry, List.mem_map] at hx
    obtain ⟨r, -, rfl⟩ := hx
    rfl
  | comment c => cases hx
  | blank => cases hx

/-- Every finding is about an entry that has a counterpart. -/
theorem exists_counterpart_of_mem_compare {x : Finding} (hreference : reference.Coherent)
    (hx : x ∈ compare remark? translation reference) :
    ∃ number e counterpart r, translation.line? number = some (.entry e) ∧ .entry counterpart ∈ reference.lines ∧
      counterpart.key = e.key ∧ remark? e.value counterpart.value = some r ∧ x = r.finding number e.key := by
  obtain ⟨number, line, hline, hx⟩ := Content.mem_inspect.1 hx
  cases line with
  | entry e =>
    rw [inspectLine_entry, List.mem_map] at hx
    obtain ⟨r, hr, rfl⟩ := hx
    obtain ⟨value, hvalue, hr⟩ := Option.bind_eq_some_iff.1 (Option.mem_toList.1 hr)
    obtain ⟨counterpart, hcounterpart, hkey, rfl⟩ := hreference.value?_eq_some_iff.1 hvalue
    exact ⟨number, e, counterpart, r, hline, hcounterpart, hkey, hr, rfl⟩
  | comment c => cases hx
  | blank => cases hx

/-! ### Keys that are found -/

theorem map_key_compare (remark? : String → String → Option Remark) (translation reference : Content) :
    (compare remark? translation reference).map Finding.key =
      (translation.entries.filter fun e => ((reference.value? e.key).bind (remark? e.value)).isSome).map
        (some ·.key) := by
  rw [compare, (inspectsEntries _ _).map_key_inspect]
  induction translation.entries with
  | nil => rfl
  | cons e rest ih =>
    rw [List.flatMap_cons, ih, inspectLine_entry, List.filter_cons]
    cases (reference.value? e.key).bind (remark? e.value) <;> rfl

theorem none_notMem_map_key_compare : none ∉ (compare remark? translation reference).map Finding.key := by
  rw [map_key_compare, List.mem_map]
  rintro ⟨e, -, hkey⟩
  cases hkey

/-- A comparison finds the keys of both files under which there are values that it remarks on. -/
theorem mem_map_key_compare_iff (htranslation : translation.Coherent) {key : String} :
    some key ∈ (compare remark? translation reference).map Finding.key ↔
      ∃ value other, translation.value? key = some value ∧ reference.value? key = some other ∧
        (remark? value other).isSome = true := by
  rw [map_key_compare, List.mem_map]
  constructor
  · rintro ⟨e, he, hkey⟩
    obtain rfl : e.key = key := Option.some.inj hkey
    obtain ⟨hentry, hremark⟩ := List.mem_filter.1 he
    obtain ⟨r, hr⟩ := Option.isSome_iff_exists.1 hremark
    obtain ⟨other, hother, hr⟩ := Option.bind_eq_some_iff.1 hr
    exact ⟨e.value, other, htranslation.value?_eq_some_iff.2 ⟨e, Content.mem_entries.1 hentry, rfl, rfl⟩, hother,
      Option.isSome_iff_exists.2 ⟨r, hr⟩⟩
  · rintro ⟨value, other, hvalue, hother, hremark⟩
    obtain ⟨e, hentry, rfl, rfl⟩ := htranslation.value?_eq_some_iff.1 hvalue
    refine ⟨e, List.mem_filter.2 ⟨Content.mem_entries.2 hentry, ?_⟩, rfl⟩
    rw [hother, Option.bind_some]
    exact hremark

theorem nodup_map_key_compare (htranslation : translation.Coherent) :
    ((compare remark? translation reference).map Finding.key).Nodup := by
  have hkeys : (translation.entries.map Entry.key).Nodup := by
    rw [Content.map_key_entries, ← htranslation.keys_eq]
    exact htranslation.keys_nodup
  have hsome : (translation.entries.map (some ·.key)).Nodup := by
    have hmapped := hkeys.map fun _ _ => Option.some.inj
    rwa [List.map_map] at hmapped
  rw [map_key_compare]
  exact hsome.sublist (List.filter_sublist.map _)

/-- Files that change places are found to differ under the same keys if the remarks do not depend on which of two
values is the one in the reference. -/
theorem perm_map_key_compare (htranslation : translation.Coherent) (hreference : reference.Coherent)
    (hturn : ∀ value other, (remark? value other).isSome = true → (remark? other value).isSome = true) :
    ((compare remark? translation reference).map Finding.key).Perm
      ((compare remark? reference translation).map Finding.key) := by
  rw [List.perm_ext_iff_of_nodup (nodup_map_key_compare htranslation) (nodup_map_key_compare hreference)]
  rintro (_ | key)
  · exact iff_of_false none_notMem_map_key_compare none_notMem_map_key_compare
  · rw [mem_map_key_compare_iff htranslation, mem_map_key_compare_iff hreference]
    constructor
    · rintro ⟨value, other, hvalue, hother, hremark⟩
      exact ⟨other, value, hother, hvalue, hturn value other hremark⟩
    · rintro ⟨other, value, hother, hvalue, hremark⟩
      exact ⟨value, other, hvalue, hother, hturn other value hremark⟩

end Agreement

end BundleCheck
