import BundleCheck.Proofs.Check.Retention
import BundleCheck.Proofs.Check.Scope

/-!
# How the keys of two files are told apart

A key of the reference is common to both files or missing in the translation, and a key of the translation is common
or dangling. The comparison asks the index that each file keeps for looking up, while the check for dangling keys goes
over the lines, so that both say the same rests on the index and the lines of a file being in agreement.
-/

namespace BundleCheck

namespace Keys

variable {translation reference : Content}

theorem missing_true_eq (reference translation : Content) :
    missing true reference translation = reference.keys.filter fun key => !translation.contains key :=
  List.filter_congr fun key _ => by rw [Bool.true_or, Bool.and_true]

/-- What is missing unless it is deferred is what is missing anyhow, without what is deferred. -/
theorem missing_false_eq (reference translation : Content) :
    missing false reference translation =
      (missing true reference translation).filter (· ∉ translation.deferred) := by
  rw [missing_true_eq, List.filter_filter]
  refine List.filter_congr fun key _ => ?_
  rw [Bool.false_or, Bool.and_comm, Content.defers, List.contains_eq_mem, decide_not]

/-- Each key of the reference is common or missing. -/
theorem common_append_missing_perm (reference translation : Content) :
    (common reference translation ++ missing true reference translation).Perm reference.keys := by
  rw [missing_true_eq]
  exact List.filter_append_perm _ _

theorem disjoint_common_missing (strict : Bool) (reference translation : Content) :
    (common reference translation).Disjoint (missing strict reference translation) := by
  intro key hcommon hmissing
  have hown := (List.mem_filter.1 hcommon).2
  have hlacks := (List.mem_filter.1 hmissing).2
  simp [hown] at hlacks

theorem mem_common_iff (htranslation : translation.Coherent) {key : String} :
    key ∈ common reference translation ↔ key ∈ reference.keys ∧ key ∈ translation.keys := by
  rw [common, List.mem_filter, htranslation.contains_iff]

theorem dangling_eq (hreference : reference.Coherent) (translation : Content) :
    dangling translation reference = translation.keys.filter (· ∉ reference.keys) := by
  refine List.filter_congr fun key _ => ?_
  rw [Bool.eq_iff_iff, Bool.not_eq_true', decide_eq_true_iff, ← hreference.contains_iff, Bool.not_eq_true]

/-- Each key of the translation is dangling or common. -/
theorem mem_keys_iff (htranslation : translation.Coherent) (hreference : reference.Coherent) {key : String} :
    key ∈ translation.keys ↔ key ∈ dangling translation reference ∨ key ∈ common reference translation := by
  rw [dangling_eq hreference, mem_common_iff htranslation, List.mem_filter, decide_eq_true_iff]
  by_cases hkey : key ∈ reference.keys <;> simp [hkey]

end Keys

namespace DanglingKeys

/-- The check finds the dangling keys in their order. -/
theorem map_key_findings {translation : Content} (htranslation : translation.Coherent) (reference : Content) :
    (findings translation reference).map Finding.key = (Keys.dangling translation reference).map some := by
  rw [findings, (inspectsEntries _).map_key_inspect, Keys.dangling, htranslation.keys_eq, ← Content.map_key_entries]
  induction translation.entries with
  | nil => rfl
  | cons e rest ih =>
    rw [List.flatMap_cons, ih, List.map_cons, List.filter_cons, inspectLine]
    cases reference.contains e.key <;> rfl

theorem exists_line_of_mem_findings {translation reference : Content} {x : Finding}
    (hx : x ∈ findings translation reference) :
    ∃ number e, translation.line? number = some (.entry e) ∧
      x = .error (some (.onLine number)) (some e.key) "Key not present in reference file." := by
  obtain ⟨number, line, hline, hx⟩ := Content.mem_inspect.1 hx
  cases line with
  | entry e =>
    rw [inspectLine] at hx
    split at hx
    · cases hx
    · exact ⟨number, e, hline, List.mem_singleton.1 hx⟩
  | comment c => cases hx
  | blank => cases hx

end DanglingKeys

namespace Bundle

/-- The keys of a reference are those that it has in common with a translation and those that are missing there,
and the keys of the translation are the common ones and the dangling ones. Deferred keys are missing only for a
strict reader. The two checks of keys find exactly the dangling and the missing keys, in the order of the file that
has them and each of them once. -/
theorem keys_told_apart {t reference : Bundle} (ht : t.Built) (hreference : reference.Built) :
    let common := Keys.common reference.content t.content
    let missing := fun strict => Keys.missing strict reference.content t.content
    let dangling := Keys.dangling t.content reference.content
    (common.Sublist reference.content.keys ∧ (missing true).Sublist reference.content.keys ∧
      common.Disjoint (missing true) ∧ (common ++ missing true).Perm reference.content.keys) ∧
    (dangling = t.content.keys.filter (· ∉ reference.content.keys) ∧
      ∀ key, key ∈ t.content.keys ↔ key ∈ dangling ∨ key ∈ common) ∧
    missing false = (missing true).filter (· ∉ t.content.deferred) ∧
    (∃ found, Check.danglingKeys.run t.content (some reference.content) = .ok ⟨CheckName.danglingKeys.label, found⟩ ∧
      found.map Finding.key = dangling.map some ∧
      ∀ x ∈ found, ∃ number e, t.content.line? number = some (.entry e) ∧
        x = .error (some (.onLine number)) (some e.key) "Key not present in reference file.") ∧
    (∀ strict, (Check.missingTranslations strict).run t.content (some reference.content) =
      .ok ⟨CheckName.missingTranslations.label,
        (missing strict).map fun key => .warning none (some key) "Missing translation."⟩) ∧
    dangling.Nodup ∧ ∀ strict, (missing strict).Nodup := by
  intro common missing dangling
  have hown := ht.coherent
  have hother := hreference.coherent
  refine ⟨⟨List.filter_sublist, List.filter_sublist, Keys.disjoint_common_missing true _ _,
      Keys.common_append_missing_perm _ _⟩,
    ⟨Keys.dangling_eq hother _, fun key => Keys.mem_keys_iff hown hother⟩, Keys.missing_false_eq _ _,
    ⟨_, Check.run_of_pair rfl _ _, DanglingKeys.map_key_findings hown _,
      fun x => DanglingKeys.exists_line_of_mem_findings⟩,
    fun strict => Check.run_of_pair (c := .missingTranslations strict) rfl _ _, hown.keys_nodup.filter _,
    fun strict => hother.keys_nodup.filter _⟩

/-- `c` is deferred, so that only a strict reader misses it. -/
theorem keys_told_apart_deferred :
    let reference := (empty.read .standard "a = 1\nb = 2\nc = 3").1
    let t := (empty.read .standard "z = 1\na = 2\n# ==> c =\ny = 3").1
    t.Built ∧ reference.Built ∧
      (["a"] ++ ["b", "c"]).Perm reference.content.keys ∧
      (∀ key, key ∈ t.content.keys ↔ key ∈ ["z", "y"] ∨ key ∈ ["a"]) ∧
      (∃ found, Check.danglingKeys.run t.content (some reference.content) = .ok ⟨"DanglingKeys", found⟩ ∧
        found.map Finding.key = [some "z", some "y"]) ∧
      (Check.missingTranslations false).run t.content (some reference.content) =
        .ok ⟨"MissingTranslations", [.warning none (some "b") "Missing translation."]⟩ := by
  intro reference t
  have ht : t.Built := .read _ _ .empty
  have hreference : reference.Built := .read _ _ .empty
  have hcommon : Keys.common reference.content t.content = ["a"] := by decide +kernel
  have hmissing : Keys.missing true reference.content t.content = ["b", "c"] := by decide +kernel
  have hdangling : Keys.dangling t.content reference.content = ["z", "y"] := by decide +kernel
  have hdeferred : t.content.deferred = ["c"] := by decide +kernel
  obtain ⟨⟨-, -, -, hreferenceKeys⟩, ⟨-, hkeys⟩, hlenient, ⟨found, hrun, hfound, -⟩, hwarned, -⟩ :=
    keys_told_apart ht hreference
  have hwarned := hwarned false
  simp only [hcommon, hmissing, hdangling, hdeferred] at hreferenceKeys hkeys hlenient hfound hwarned
  rw [hlenient] at hwarned
  exact ⟨ht, hreference, hreferenceKeys, hkeys, ⟨found, hrun, hfound⟩, hwarned⟩

end Bundle

end BundleCheck
