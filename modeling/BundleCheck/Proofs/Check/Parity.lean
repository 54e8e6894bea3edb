import BundleCheck.Proofs.Check.Endings
import BundleCheck.Proofs.Check.KeySets
import BundleCheck.Proofs.Check.Specifiers

/-!
# Values compared both ways, and equal values

Two of the comparisons ask whether two values agree in something, and it does not matter for that which of them is the
reference: with the files exchanged they find the same keys, although they then go over the other file and look up in
this one. None of the four comparisons remarks on a value that is its own counterpart, so what is left for files that
give the same value under each key that they share are the keys that they do not share.
-/

namespace BundleCheck

open Agreement (Remark)

/-! ### What the comparisons remark on -/

theorem EmptyTranslations.remark?_self (value : String) : remark? value value = none := by
  rw [remark?, Bool.and_not_self]
  rfl

theorem FormattingValues.remark?_self (value : String) : remark? value value = none :=
  remark?_eq_none_iff.2 rfl

theorem Punctuation.remark?_self (o : PunctuationOptions) (value : String) : remark? o value value = none := by
  rw [remark?]
  cases hending : ending? o.endings value with
  | none => rfl
  | some ending =>
    exact if_pos (endsWith_iff.2 (ending?_eq_some_iff.1 hending).suffix)

/-- Values that are not left alone agree if the first letters of both have one case, or if neither has one. -/
theorem SameCase.remark?_eq_none_iff {o : CaseOptions} {value reference : String} :
    remark? o value reference = none ↔ isExempt o value.toList = true ∨ isExempt o reference.toList = true ∨
      (firstLetter? value.toList).map Unicode.isUppercase =
        (firstLetter? reference.toList).map Unicode.isUppercase := by
  rw [remark?]
  by_cases hexempt : (isExempt o value.toList || isExempt o reference.toList) = true
  · rw [if_pos hexempt, ← or_assoc, ← Bool.or_eq_true]
    exact iff_of_true rfl (.inl hexempt)
  · rw [if_neg hexempt, ← or_assoc, ← Bool.or_eq_true, or_iff_right hexempt]
    cases firstLetter? value.toList <;> cases firstLetter? reference.toList <;> simp

theorem SameCase.remark?_self (o : CaseOptions) (value : String) : remark? o value value = none :=
  remark?_eq_none_iff.2 (.inr (.inr rfl))

namespace Check

/-- The two values are not alike in what the check compares. Only the checks of specifiers and of first letters
compare what both values have in the same way; the others never tell values apart in this sense. -/
def TellsApart : Check → String → String → Prop
  | formattingValues, value, other =>
    (FormattingValues.specifiers value).map (·.text) ≠ (FormattingValues.specifiers other).map (·.text)
  | startsWithTheSameCase o, value, other =>
    SameCase.isExempt o value.toList = false ∧ SameCase.isExempt o other.toList = false ∧
      (SameCase.firstLetter? value.toList).map Unicode.isUppercase ≠
        (SameCase.firstLetter? other.toList).map Unicode.isUppercase
  | _, _, _ => False

theorem TellsApart.symm {c : Check} {value other : String} (h : c.TellsApart value other) :
    c.TellsApart other value := by
  cases c with
  | formattingValues => exact Ne.symm h
  | startsWithTheSameCase o => exact ⟨h.2.1, h.1, h.2.2.symm⟩
  | _ => exact h

theorem exists_compare_tellsApart {c : Check} (h : c.name ∈ [.formattingValues, .startsWithTheSameCase]) :
    ∃ remark?, c.procedure = .pair (Agreement.compare remark?) ∧
      ∀ value other, (remark? value other).isSome = true ↔ c.TellsApart value other := by
  cases c with
  | formattingValues =>
    refine ⟨_, rfl, fun value other => ?_⟩
    rw [← Option.ne_none_iff_isSome]
    exact not_congr FormattingValues.remark?_eq_none_iff
  | startsWithTheSameCase o =>
    refine ⟨_, rfl, fun value other => ?_⟩
    rw [← Option.ne_none_iff_isSome, ne_eq, SameCase.remark?_eq_none_iff, not_or, not_or, Bool.not_eq_true,
      Bool.not_eq_true]
    rfl
  | _ => simp [name] at h

theorem exists_compare_self {c : Check}
    (h : c.name ∈ [.emptyTranslations, .formattingValues, .punctuation, .startsWithTheSameCase]) :
    ∃ remark?, c.procedure = .pair (Agreement.compare remark?) ∧ ∀ value, remark? value value = none := by
  cases c with
  | emptyTranslations => exact ⟨_, rfl, EmptyTranslations.remark?_self⟩
  | formattingValues => exact ⟨_, rfl, FormattingValues.remark?_self⟩
  | punctuation o => exact ⟨_, rfl, Punctuation.remark?_self o⟩
  | startsWithTheSameCase o => exact ⟨_, rfl, SameCase.remark?_self o⟩
  | _ => simp [name] at h

end Check

/-! ### Files with equal values -/

section EqualValues

variable {translation reference : Content}

/-- The two files give the same value under each key that they share. -/
def Content.Concordant (translation reference : Content) : Prop :=
  ∀ e e', .entry e ∈ translation.lines → .entry e' ∈ reference.lines → e.key = e'.key → e.value = e'.value

theorem Content.Coherent.concordant_self {d : Content} (hd : d.Coherent) : d.Concordant d := by
  intro e e' he he' hkey
  have hfound := hd.entry?_eq_some_iff.2 ⟨he, hkey⟩
  rw [hd.entry?_eq_some_iff.2 ⟨he', rfl⟩] at hfound
  rw [Option.some.inj hfound]

theorem Agreement.compare_eq_nil {remark? : String → String → Option Remark}
    (hself : ∀ value, remark? value value = none) (hreference : reference.Coherent)
    (h : translation.Concordant reference) : compare remark? translation reference = [] := by
  rw [List.eq_nil_iff_forall_not_mem]
  intro x hx
  obtain ⟨number, e, counterpart, r, hline, hcounterpart, hkey, hremark, -⟩ :=
    exists_counterpart_of_mem_compare hreference hx
  rw [h e counterpart (Content.mem_lines_of_line? hline) hcounterpart hkey.symm, hself] at hremark
  cases hremark

theorem DanglingKeys.findings_eq_nil (htranslation : translation.Coherent) (hreference : reference.Coherent)
    (h : ∀ key ∈ translation.keys, key ∈ reference.keys) : findings translation reference = [] := by
  have hkeys := map_key_findings htranslation reference
  rw [Keys.dangling_eq hreference, List.filter_eq_nil_iff.2 (by simpa using h)] at hkeys
  exact List.map_eq_nil_iff.1 hkeys

theorem MissingTranslations.findings_eq_nil (strict : Bool) (htranslation : translation.Coherent)
    (h : ∀ key ∈ reference.keys, key ∈ translation.keys) : findings strict translation reference = [] := by
  rw [findings, List.map_eq_nil_iff, Keys.missing, List.filter_eq_nil_iff]
  intro key hkey
  simp [htranslation.contains_iff.2 (h key hkey)]

namespace Check

variable {c : Check}

theorem run_of_concordant
    (hc : c.name ∈ [.emptyTranslations, .formattingValues, .punctuation, .startsWithTheSameCase])
    (hreference : reference.Coherent) (h : translation.Concordant reference) :
    c.run translation (some reference) = .ok ⟨c.name.label, []⟩ := by
  obtain ⟨remark?, hcompare, hself⟩ := exists_compare_self hc
  rw [run_of_pair hcompare, Agreement.compare_eq_nil hself hreference h]

theorem run_of_concordant_of_keys (hc : c.isSingle = false) (htranslation : translation.Coherent)
    (hreference : reference.Coherent) (h : translation.Concordant reference)
    (hkeys : ∀ key, key ∈ translation.keys ↔ key ∈ reference.keys) :
    c.run translation (some reference) = .ok ⟨c.name.label, []⟩ := by
  cases c with
  | danglingKeys =>
    rw [run_of_pair rfl, DanglingKeys.findings_eq_nil htranslation hreference fun key => (hkeys key).1]
  | missingTranslations strict =>
    rw [run_of_pair rfl, MissingTranslations.findings_eq_nil strict htranslation fun key => (hkeys key).2]
  | emptyTranslations | formattingValues | punctuation o | startsWithTheSameCase o =>
    exact run_of_concordant (by simp [name]) hreference h
  | _ => cases hc

end Check

end EqualValues

/-! ### Documents -/

namespace Bundle

/-- The checks of specifiers and of first letters find the same keys when the two files change places, each of them
once. They are the keys of both files under which there are values that the check tells apart. -/
theorem same_keys_either_way {a b : Bundle} (ha : a.Built) (hb : b.Built) {c : Check}
    (hc : c.name ∈ [.formattingValues, .startsWithTheSameCase]) :
    ∃ there back, c.run a.content (some b.content) = .ok ⟨c.name.label, there⟩ ∧
      c.run b.content (some a.content) = .ok ⟨c.name.label, back⟩ ∧
      (there.map Finding.key).Perm (back.map Finding.key) ∧ (there.map Finding.key).Nodup ∧
      ∀ key, some key ∈ there.map Finding.key ↔
        ∃ value other, a.content.value? key = some value ∧ b.content.value? key = some other ∧
          c.TellsApart value other := by
  obtain ⟨remark?, hcompare, hremark⟩ := Check.exists_compare_tellsApart hc
  refine ⟨_, _, Check.run_of_pair hcompare _ _, Check.run_of_pair hcompare _ _, ?_,
    Agreement.nodup_map_key_compare ha.coherent, fun key => ?_⟩
  · refine Agreement.perm_map_key_compare ha.coherent hb.coherent fun value other hapart => ?_
    rw [hremark] at hapart ⊢
    exact hapart.symm
  · simp only [Agreement.mem_map_key_compare_iff ha.coherent, hremark]

/-- The first value of one file begins with a digit, that of the other with a small letter, and one of both files has
an entry more than the other. -/
theorem same_keys_either_way_digits_compared :
    let a := (empty.read .standard "x = 3 Apples\ny = Hello\nz = Same\nw = Alone").1
    let b := (empty.read .standard "# note\nz = Gleich\ny = hallo\nx = 3 äpfel").1
    let c := Check.startsWithTheSameCase ⟨false⟩
    a.Built ∧ b.Built ∧ c.name ∈ [.formattingValues, .startsWithTheSameCase] ∧ ∃ there back,
      c.run a.content (some b.content) = .ok ⟨c.name.label, there⟩ ∧
      c.run b.content (some a.content) = .ok ⟨c.name.label, back⟩ ∧
      (there.map Finding.key).Perm (back.map Finding.key) ∧
      there.map Finding.key = [some "x", some "y"] ∧ back.map Finding.key = [some "y", some "x"] := by
  intro a b c
  have ha : a.Built := .read _ _ .empty
  have hb : b.Built := .read _ _ .empty
  have hc : c.name ∈ [.formattingValues, .startsWithTheSameCase] := by decide
  obtain ⟨there, back, hthere, hback, hperm, -, -⟩ := same_keys_either_way ha hb hc
  refine ⟨ha, hb, hc, there, back, hthere, hback, hperm, ?_, ?_⟩
  · have hkeys : (c.run a.content (some b.content)).toOption.map (·.findings.map Finding.key) =
        some [some "x", some "y"] := by decide +kernel
    rw [hthere] at hkeys
    exact Option.some.inj hkeys
  · have hkeys : (c.run b.content (some a.content)).toOption.map (·.findings.map Finding.key) =
        some [some "y", some "x"] := by decide +kernel
    rw [hback] at hkeys
    exact Option.some.inj hkeys

/-- Files that give the same value under each key that they share are found to agree by all comparisons of values,
and if they have the same keys, by those of keys as well. So nothing is found in a file that is its own reference. -/
theorem nothing_found_of_concordant {t reference : Bundle} (ht : t.Built) (hreference : reference.Built) :
    (t.content.Concordant reference.content →
      (∀ c : Check, c.name ∈ [.emptyTranslations, .formattingValues, .punctuation, .startsWithTheSameCase] →
        c.run t.content (some reference.content) = .ok ⟨c.name.label, []⟩) ∧
      ((∀ key, key ∈ t.content.keys ↔ key ∈ reference.content.keys) →
        Check.danglingKeys.run t.content (some reference.content) = .ok ⟨CheckName.danglingKeys.label, []⟩ ∧
        ∀ strict, (Check.missingTranslations strict).run t.content (some reference.content) =
          .ok ⟨CheckName.missingTranslations.label, []⟩)) ∧
    ∀ c : Check, c.isSingle = false → c.run t.content (some t.content) = .ok ⟨c.name.label, []⟩ := by
  have hown := ht.coherent
  have hother := hreference.coherent
  refine ⟨fun hequal => ⟨fun c hc => Check.run_of_concordant hc hother hequal, fun hkeys => ⟨?_, fun strict => ?_⟩⟩,
    fun c hc => ?_⟩
  · exact Check.run_of_concordant_of_keys (c := .danglingKeys) rfl hown hother hequal hkeys
  · exact Check.run_of_concordant_of_keys (c := .missingTranslations strict) rfl hown hother hequal hkeys
  · exact Check.run_of_concordant_of_keys hc hown hown hown.concordant_self fun key => Iff.rfl

/-- The entries stand in another order, with other separators, between a note and an empty line. -/
theorem nothing_found_of_concordant_reordered :
    let reference := (empty.read .standard "a = %s Done.\n# note\nb =").1
    let t := (empty.read .standard "b:\n\na : %s Done.").1
    t.Built ∧ reference.Built ∧ t.content.Concordant reference.content ∧
      (∀ key, key ∈ t.content.keys ↔ key ∈ reference.content.keys) ∧
      (∀ o, (Check.punctuation o).run t.content (some reference.content) = .ok ⟨"Punctuation", []⟩) ∧
      Check.danglingKeys.run t.content (some reference.content) = .ok ⟨"DanglingKeys", []⟩ := by
  intro reference t
  have ht : t.Built := .read _ _ .empty
  have hreference : reference.Built := .read _ _ .empty
  have hentries : t.content.entries.all fun e => reference.content.entries.all fun e' =>
      e.key != e'.key || e.value == e'.value := by decide +kernel
  have hequal : t.content.Concordant reference.content := by
    intro e e' he he' hkey
    have hvalue := List.all_eq_true.1 (List.all_eq_true.1 hentries e (Content.mem_entries.2 he)) e'
      (Content.mem_entries.2 he')
    simpa [hkey] using hvalue
  have hkeys : ∀ key, key ∈ t.content.keys ↔ key ∈ reference.content.keys := by
    have ht' : t.content.keys = ["b", "a"] := by decide +kernel
    have hreference' : reference.content.keys = ["a", "b"] := by decide +kernel
    intro key
    rw [ht', hreference', List.mem_pair, List.mem_pair, or_comm]
  obtain ⟨hvalues, hsame⟩ := (nothing_found_of_concordant ht hreference).1 hequal
  exact ⟨ht, hreference, hequal, hkeys, fun o => hvalues (.punctuation o) (by simp [Check.name]), (hsame hkeys).1⟩

end Bundle

end BundleCheck
