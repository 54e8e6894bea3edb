import BundleCheck.Proofs.Bundle.Index
import BundleCheck.Proofs.Check.Placement

/-!
# What findings depend on

What a check finds on a line depends on that line and on what the reference has under its key. Other lines,
the order of the reference and the keys that neither file shares with the line play no part. The checks of one
file do not look at the reference at all, and the check for missing translations looks at nothing but keys.
-/

namespace BundleCheck

/-! ### References that are alike at a key -/

/-- Looking the key up gives the same answers in both. -/
structure Content.Alike (r₁ r₂ : Content) (key : String) : Prop where
  contains_eq : r₁.contains key = r₂.contains key
  value?_eq : r₁.value? key = r₂.value? key

theorem Content.Coherent.alike {r₁ r₂ : Content} (h₁ : r₁.Coherent) (h₂ : r₂.Coherent) {key : String}
    (h : (key ∉ r₁.keys ∧ key ∉ r₂.keys) ∨ ∃ value, r₁.value? key = some value ∧ r₂.value? key = some value) :
    r₁.Alike r₂ key := by
  have hvalue : r₁.value? key = r₂.value? key := by
    rcases h with ⟨hfresh₁, hfresh₂⟩ | ⟨value, hvalue₁, hvalue₂⟩
    · rw [value?, value?, h₁.entry?_eq_none_iff.2 hfresh₁, h₂.entry?_eq_none_iff.2 hfresh₂]
    · rw [hvalue₁, hvalue₂]
  refine ⟨?_, hvalue⟩
  have hpresent : ∀ {d : Content}, d.Coherent → d.contains key = (d.value? key).isSome := by
    intro d hd
    rw [hd.contains_eq_isSome, value?, Option.isSome_map]
  rw [hpresent h₁, hpresent h₂, hvalue]

/-! ### One line -/

theorem DanglingKeys.inspectLine_congr {isKnown isKnown' : String → Bool} {line : Line}
    (h : ∀ key, line.key? = some key → isKnown key = isKnown' key) (number : Nat) :
    inspectLine isKnown number line = inspectLine isKnown' number line := by
  cases line with
  | entry e => rw [inspectLine, inspectLine, h e.key rfl]
  | comment c => rfl
  | blank => rfl

theorem Agreement.inspectLine_congr (remark? : String → String → Option Remark)
    {counterpart counterpart' : String → Option String} {line : Line}
    (h : ∀ key, line.key? = some key → counterpart key = counterpart' key) (number : Nat) :
    inspectLine remark? counterpart number line = inspectLine remark? counterpart' number line := by
  cases line with
  | entry e => rw [inspectLine, inspectLine, h e.key rfl]
  | comment c => rfl
  | blank => rfl

namespace Scope

/-- For what is found on a line the reference matters only at the key of that line. -/
def Local (scope : Scope) : Prop :=
  ∀ {r₁ r₂ : Content} {line : Line}, (∀ key, line.key? = some key → r₁.Alike r₂ key) →
    ∀ number, scope.onLine r₁ number line = scope.onLine r₂ number line

theorem local_linesUnless (complaint : Option Finding) (inspect : Nat → Line → List Finding) :
    (linesUnless complaint inspect).Local := by
  cases complaint with
  | some x => exact fun _ _ => rfl
  | none => exact fun _ _ => rfl

end Scope

theorem Check.scope_local (c : Check) : c.scope.Local := by
  cases c with
  | brackets o | typesettingQuotationMarks o | quotationMarks o => exact Scope.local_linesUnless _ _
  | keyFormat | missingTranslations | substitutions | trailingWhiteChars | whiteCharsBeforeLinefeed =>
    exact fun _ _ => rfl
  | danglingKeys => exact fun halike => DanglingKeys.inspectLine_congr fun key hkey => (halike key hkey).contains_eq
  | emptyTranslations | formattingValues | punctuation o | startsWithTheSameCase o =>
    exact fun halike => Agreement.inspectLine_congr _ fun key hkey => (halike key hkey).value?_eq

/-! ### Whole files -/

theorem Check.filter_found_congr (c : Check) {t₁ r₁ t₂ r₂ : Content} {number : Nat}
    (hline : t₁.line? number = t₂.line? number)
    (halike : ∀ line, t₁.line? number = some line → ∀ key, line.key? = some key → r₁.Alike r₂ key) :
    (c.found t₁ (some r₁)).findings.filter (fun x => x.line? = some number) =
      (c.found t₂ (some r₂)).findings.filter fun x => x.line? = some number := by
  simp only [found, Option.getD_some, c.scope_fits.filter_findings, ← hline]
  cases hown : t₁.line? number with
  | none => rfl
  | some line => exact c.scope_local (halike line hown) number

theorem MissingTranslations.findings_congr (strict : Bool) {t₁ r₁ t₂ r₂ : Content} (ht₁ : t₁.Coherent)
    (ht₂ : t₂.Coherent) (hreference : r₁.keys = r₂.keys) (hkeys : ∀ key, key ∈ t₁.keys ↔ key ∈ t₂.keys)
    (hdeferred : ∀ key, key ∈ t₁.deferred ↔ key ∈ t₂.deferred) :
    findings strict t₁ r₁ = findings strict t₂ r₂ := by
  have hcontains : ∀ key, t₁.contains key = t₂.contains key := by
    intro key
    rw [Bool.eq_iff_iff, ht₁.contains_iff, ht₂.contains_iff]
    exact hkeys key
  have hdefers : ∀ key, t₁.defers key = t₂.defers key := by
    intro key
    rw [Bool.eq_iff_iff, Content.defers, Content.defers, List.contains_iff_mem, List.contains_iff_mem]
    exact hdeferred key
  simp only [findings, Keys.missing, hreference, hcontains, hdefers]

namespace Check

theorem run_of_isSingle {c : Check} (h : c.isSingle = true) (translation : Content) (reference : Option Content) :
    c.run translation reference = c.run translation none := by
  unfold isSingle at h
  cases hprocedure : c.procedure with
  | single findings => simp only [run, hprocedure]
  | pair findings =>
    rw [hprocedure] at h
    cases h

/-- Two files with the same line at one place get the same findings there if the references have the same value
under the key of that line, or both have none. The checks of one file answer the same under every reference and
under none. For missing translations the keys of the reference count in their order, and of the translation the
sets of the keys that it has and of those that it defers. -/
theorem findings_local {t₁ r₁ t₂ r₂ : Bundle} (ht₁ : t₁.Built) (hr₁ : r₁.Built) (ht₂ : t₂.Built)
    (hr₂ : r₂.Built) (c : Check) :
    (∀ number, t₁.content.line? number = t₂.content.line? number →
      (∀ line, t₁.content.line? number = some line → ∀ key, line.key? = some key →
        (key ∉ r₁.content.keys ∧ key ∉ r₂.content.keys) ∨
          ∃ value, r₁.content.value? key = some value ∧ r₂.content.value? key = some value) →
      ∃ s₁ s₂, c.run t₁.content (some r₁.content) = .ok s₁ ∧ c.run t₂.content (some r₂.content) = .ok s₂ ∧
        s₁.findings.filter (fun x => x.line? = some number) =
          s₂.findings.filter fun x => x.line? = some number) ∧
    (c.name ∈ [.brackets, .keyFormat, .quotationMarks, .substitutions, .trailingWhiteChars,
        .typesettingQuotationMarks, .whiteCharsBeforeLinefeed] →
      ∃ found, ∀ reference, c.run t₁.content reference = .ok found) ∧
    (c.name = .missingTranslations → r₁.content.keys = r₂.content.keys →
      (∀ key, key ∈ t₁.content.keys ↔ key ∈ t₂.content.keys) →
      (∀ key, key ∈ t₁.content.deferred ↔ key ∈ t₂.content.deferred) →
      ∃ found, c.run t₁.content (some r₁.content) = .ok found ∧
        c.run t₂.content (some r₂.content) = .ok found) := by
  refine ⟨?_, ?_, ?_⟩
  · intro number hline hreferences
    refine ⟨_, _, run_of_applies rfl _, run_of_applies rfl _, ?_⟩
    apply c.filter_found_congr hline
    intro line hown key hkey
    exact hr₁.coherent.alike hr₂.coherent (hreferences line hown key hkey)
  · intro hname
    have hsingle := c.isSingle_iff.2 hname
    refine ⟨c.found t₁.content none, fun reference => ?_⟩
    rw [run_of_isSingle hsingle, run_of_applies (by simpa using hsingle)]
  · intro hname hkeys hown hdeferred
    cases c with
    | missingTranslations strict =>
      have hfindings := MissingTranslations.findings_congr strict ht₁.coherent ht₂.coherent hkeys hown hdeferred
      refine ⟨_, run_of_applies rfl _, ?_⟩
      rw [run_of_applies rfl, found, found]
      simp only [scope, Scope.findings, Option.getD_some, hfindings]
    | _ => cases hname

/-- The second lines are one and the same, with other lines around them and other references. -/
theorem findings_local_formatting_values :
    let t₁ := (Bundle.empty.read .standard "x = (\nk = %d").1
    let r₁ := (Bundle.empty.read .standard "k = %s\nx = 2").1
    let t₂ := (Bundle.empty.read .standard "# other\nk = %d\ny = 1").1
    let r₂ := (Bundle.empty.read .standard "z = 1\nk = %s").1
    ∃ s₁ s₂, formattingValues.run t₁.content (some r₁.content) = .ok s₁ ∧
      formattingValues.run t₂.content (some r₂.content) = .ok s₂ ∧
      s₁.findings.filter (fun x => x.line? = some 2) = s₂.findings.filter (fun x => x.line? = some 2) ∧
      s₁.findings = [.error (some (.atColumn 2 1)) (some "k") "Expected \"%s\", found \"%d\"."] := by
  intro t₁ r₁ t₂ r₂
  have hline : t₁.content.line? 2 = t₂.content.line? 2 := by decide +kernel
  have hreferences : ∀ line, t₁.content.line? 2 = some line → ∀ key, line.key? = some key →
      (key ∉ r₁.content.keys ∧ key ∉ r₂.content.keys) ∨
        ∃ value, r₁.content.value? key = some value ∧ r₂.content.value? key = some value := by
    intro line hown key hkey
    obtain rfl : key = "k" := by
      have hsecond : (t₁.content.line? 2).bind Line.key? = some "k" := by decide +kernel
      rw [hown, Option.bind_some, hkey] at hsecond
      exact Option.some.inj hsecond
    exact .inr ⟨"%s", by decide +kernel, by decide +kernel⟩
  obtain ⟨hlines, -, -⟩ := findings_local (.read .standard _ .empty) (.read .standard _ .empty)
    (.read .standard _ .empty) (.read .standard _ .empty) formattingValues
  obtain ⟨s₁, s₂, h₁, h₂, hsame⟩ := hlines 2 hline hreferences
  refine ⟨s₁, s₂, h₁, h₂, hsame, ?_⟩
  have hfound : formattingValues.run t₁.content (some r₁.content) = .ok ⟨"FormattingValues",
      [.error (some (.atColumn 2 1)) (some "k") "Expected \"%s\", found \"%d\"."]⟩ := by decide +kernel
  rw [hfound] at h₁
  rw [← Except.ok.inj h₁]

end Check

end BundleCheck
