import BundleCheck.Proofs.Bundle.Renewal

/-!
# One update after another

An update reads nothing of a translation but the entries that its reference has a place for. An update from another
reference before it may take such entries away, and adds none. So the first of two updates leaves no trace exactly if
each key that the translation shares with the second reference has a place in the first one too. What the first update
wrote under its own settings is replaced in any case, and with one reference the second update is the only one that
counts.
-/

namespace BundleCheck

namespace Content

variable {s s₁ s₂ : Settings} {d d' reference r₁ r₂ : Content}

theorem replacement_congr {line : Line} (h : ∀ key ∈ keysOf [line], d.entry? key = d'.entry? key) :
    d.replacement s line = d'.replacement s line := by
  cases line with
  | entry e => rw [replacement, replacement, counterpart, counterpart, h e.key (List.mem_singleton_self _)]
  | comment c => rfl
  | blank => rfl

/-- An update depends on the entries that the reference has a place for, and on nothing else. -/
theorem update_congr (hreference : reference.Coherent)
    (h : ∀ key ∈ reference.keys, d.entry? key = d'.entry? key) : d.update s reference = d'.update s reference := by
  refine congrArg (ofLines s.deferralMarker) (List.flatMap_congr fun line hline => replacement_congr fun key hkey => ?_)
  refine h key (hreference.keys_eq ▸ ?_)
  obtain ⟨e, he, rfl⟩ := exists_entry_of_mem_keysOf hkey
  exact mem_keysOf (List.mem_singleton.1 he ▸ hline)

/-- What an update takes away from the next one are the entries that its own reference has no place for. -/
theorem keys_update_update (hd : d.Coherent) (h₁ : r₁.Coherent) (h₂ : r₂.Coherent) :
    ((d.update s₁ r₁).update s₂ r₂).keys = (d.update s₂ r₂).keys.filter r₁.contains := by
  rw [keys_update (.update s₁ d r₁) h₂, keys_update hd h₂, List.filter_filter]
  refine List.filter_congr fun key _ => ?_
  rw [Bool.eq_iff_iff, Bool.and_eq_true, (Coherent.update s₁ d r₁).contains_iff, keys_update hd h₁, List.mem_filter,
    h₁.contains_iff]

theorem update_update_of_shared (hd : d.Coherent) (h₁ : r₁.Coherent) (h₂ : r₂.Coherent)
    (hshared : ∀ key ∈ d.keys, key ∈ r₂.keys → key ∈ r₁.keys) :
    (d.update s₁ r₁).update s₂ r₂ = d.update s₂ r₂ := by
  refine update_congr h₂ fun key hkey => ?_
  by_cases hplace : key ∈ r₁.keys
  · exact entry?_update hd h₁ hplace
  · have hown : key ∉ d.keys := fun hown => hplace (hshared key hown hkey)
    have hupdated : key ∉ (d.update s₁ r₁).keys := by
      rw [keys_update hd h₁, List.mem_filter]
      exact fun h => hplace h.1
    rw [hd.entry?_eq_none_iff.2 hown, (Coherent.update s₁ d r₁).entry?_eq_none_iff.2 hupdated]

/-- The settings of the first of two updates from one reference do not matter. -/
theorem update_update (hd : d.Coherent) (hreference : reference.Coherent) :
    (d.update s₁ reference).update s₂ reference = d.update s₂ reference :=
  update_update_of_shared hd hreference hreference fun _ _ hkey => hkey

theorem update_update_eq_iff (hd : d.Coherent) (h₁ : r₁.Coherent) (h₂ : r₂.Coherent) :
    ((d.update s₁ r₁).update s₂ r₂).keys = (d.update s₂ r₂).keys ↔
      ∀ key ∈ d.keys, key ∈ r₂.keys → key ∈ r₁.keys := by
  refine ⟨fun hkeys => ?_, fun hshared => by rw [update_update_of_shared hd h₁ h₂ hshared]⟩
  intro key hown hkey
  rw [keys_update_update hd h₁ h₂, List.filter_eq_self] at hkeys
  have hupdated : key ∈ (d.update s₂ r₂).keys := by
    rw [keys_update hd h₂, List.mem_filter, hd.contains_iff]
    exact ⟨hkey, hown⟩
  exact h₁.contains_iff.1 (hkeys key hupdated)

end Content

namespace Bundle

/-- An update from one reference before an update from another makes no difference exactly if every key of the
translation that the second has a place for has one in the first. Its lines tell as much as its keys do. -/
theorem intermediate_update_harmless_iff {t r₁ r₂ : Bundle} (ht : t.Built) (h₁ : r₁.Built) (h₂ : r₂.Built)
    (s₁ s₂ : Settings) :
    let direct := t.update s₂ r₂
    let through := (t.update s₁ r₁).update s₂ r₂
    let shared := ∀ key ∈ t.content.keys, key ∈ r₂.content.keys → key ∈ r₁.content.keys
    (through.content.lines = direct.content.lines ∧ through.content.keys = direct.content.keys ∧
      through.content.deferred = direct.content.deferred ↔ shared) ∧
    (through.content.lines = direct.content.lines ↔ shared) ∧
    (through.content.keys = direct.content.keys ↔ shared) ∧
    (through = direct ↔ shared) ∧
    (t.update s₁ r₂).update s₂ r₂ = direct := by
  intro direct through shared
  have hkeys : through.content.keys = direct.content.keys ↔ shared :=
    Content.update_update_eq_iff ht.coherent h₁.coherent h₂.coherent
  have hsame : shared → through = direct := fun h =>
    congrArg (fun content => { t with content })
      (Content.update_update_of_shared ht.coherent h₁.coherent h₂.coherent h)
  have hthrough : through.Built := .update s₂ (.update s₁ ht h₁) h₂
  have hdirect : direct.Built := .update s₂ ht h₂
  have hlines : through.content.lines = direct.content.lines → through.content.keys = direct.content.keys := by
    intro h
    rw [hthrough.coherent.keys_eq, hdirect.coherent.keys_eq, h]
  refine ⟨⟨fun h => hkeys.1 h.2.1, fun h => ?_⟩, ⟨fun h => hkeys.1 (hlines h), fun h => ?_⟩, hkeys,
    ⟨fun h => hkeys.1 (by rw [h]), hsame⟩, ?_⟩
  · rw [hsame h]
    exact ⟨rfl, rfl, rfl⟩
  · rw [hsame h]
  · exact congrArg (fun content => { t with content }) (Content.update_update ht.coherent h₂.coherent)

/-- The wide reference has both keys of the translation that count, under another layout and other settings, and the
narrow one has not. -/
theorem intermediate_update_harmless_iff_wide_and_narrow :
    let s : Settings := { separator := ':', deferralMarker := "TODO", writeContent := true, writeReference := true }
    let t := (Bundle.empty.read .standard "a = eins\nb : zwei\nstale = x").1
    let wide := (Bundle.empty.read .standard "# Wide\nb = 2\n\nc = 3\na = 1").1
    let narrow := (Bundle.empty.read .standard "a = 1\nstale = x").1
    let reference := (Bundle.empty.read .standard "a = 1\nb = 2\nd = 4").1
    let direct := t.update .standard reference
    t.Built ∧ wide.Built ∧ narrow.Built ∧ reference.Built ∧
      direct.content.text = "a = eins\nb : zwei\n# ==> d =" ∧
      (t.update s wide).update .standard reference = direct ∧
      ((t.update s narrow).update .standard reference).content.keys ≠ direct.content.keys := by
  intro s t wide narrow reference direct
  have ht : t.Built := .read _ _ .empty
  have hwide : wide.Built := .read _ _ .empty
  have hnarrow : narrow.Built := .read _ _ .empty
  have hreference : reference.Built := .read _ _ .empty
  have htext : direct.content.text = "a = eins\nb : zwei\n# ==> d =" := by decide +kernel
  have hshared : ∀ key ∈ t.content.keys, key ∈ reference.content.keys → key ∈ wide.content.keys := by decide +kernel
  have hlost : ¬ ∀ key ∈ t.content.keys, key ∈ reference.content.keys → key ∈ narrow.content.keys := by decide +kernel
  obtain ⟨-, -, -, hthrough, -⟩ := intermediate_update_harmless_iff ht hwide hreference s .standard
  obtain ⟨-, -, hkeys, -⟩ := intermediate_update_harmless_iff ht hnarrow hreference s .standard
  exact ⟨ht, hwide, hnarrow, hreference, htext, hthrough.2 hshared, mt hkeys.1 hlost⟩

end Bundle

end BundleCheck
