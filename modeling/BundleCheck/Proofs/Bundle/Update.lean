import BundleCheck.Proofs.Bundle.Assembly
import BundleCheck.Settings.Validation

/-!
# Updated contents

An update puts something in the place of every line of the reference and drops nothing of it: the keys of
the translation's own entries stand once each in the reference. So the keys of an updated translation are
the keys of the reference that the translation had. The lines are those of the two files and comments that
the program writes, all of them legible.
-/

namespace BundleCheck

namespace Content

variable {s : Settings} {d reference : Content}

/-! ### Lines and keys -/

theorem key?_counterpart (hd : d.Coherent) (e : Entry) :
    (d.counterpart s e).key? = if d.contains e.key then some e.key else none := by
  rw [counterpart, hd.contains_eq_isSome]
  cases hown : d.entry? e.key with
  | none => rfl
  | some own =>
    rw [← (mem_of_entry?_eq_some hown).2]
    rfl

theorem counterpart_mem_replacement (s : Settings) (d : Content) (e : Entry) :
    d.counterpart s e ∈ d.replacement s (.entry e) := by
  rw [replacement]
  split <;> simp

theorem keysOf_replacement (hd : d.Coherent) (line : Line) :
    keysOf (d.replacement s line) = (keysOf [line]).filter d.contains := by
  cases line with
  | entry e =>
    have hcounterpart : keysOf [d.counterpart s e] = [e.key].filter d.contains := by
      rw [keysOf, List.filterMap_cons, key?_counterpart hd, List.filter_cons]
      cases d.contains e.key <;> rfl
    rw [replacement, keysOf_entry, ← hcounterpart]
    split
    · rw [← List.singleton_append, keysOf_append, keysOf_comment, List.nil_append]
    · rfl
  | comment c => rfl
  | blank => rfl

theorem keysOf_flatMap_replacement (hd : d.Coherent) (lines : List Line) :
    keysOf (lines.flatMap (d.replacement s)) = (keysOf lines).filter d.contains := by
  induction lines with
  | nil => rfl
  | cons line rest ih =>
    rw [List.flatMap_cons, keysOf_append, ih, keysOf_replacement hd, ← List.filter_append, ← keysOf_append,
      List.singleton_append]

theorem nodup_keysOf_flatMap_replacement (hd : d.Coherent) (hreference : reference.Coherent) :
    (keysOf (reference.lines.flatMap (d.replacement s))).Nodup := by
  rw [keysOf_flatMap_replacement hd, ← hreference.keys_eq]
  exact hreference.keys_nodup.filter _

/-- No line of the rebuilt file is dropped for its key. -/
theorem lines_update (hd : d.Coherent) (hreference : reference.Coherent) :
    (d.update s reference).lines = reference.lines.flatMap (d.replacement s) :=
  lines_ofLines (nodup_keysOf_flatMap_replacement hd hreference) _

theorem keys_update (hd : d.Coherent) (hreference : reference.Coherent) :
    (d.update s reference).keys = reference.keys.filter d.contains := by
  rw [(Coherent.update s d reference).keys_eq, lines_update hd hreference, keysOf_flatMap_replacement hd,
    hreference.keys_eq]

end Content

/-! ### Lines that the program writes -/

section Written

variable {s : Settings} (hs : s.IsValid)

include hs

theorem Settings.IsValid.newline_not_mem :
    '\n' ≠ s.commentMarker ∧ '\n' ∉ s.deferralMarker.toList ∧ '\n' ≠ s.separator := by
  refine ⟨fun h => ?_, fun h => ?_, fun h => ?_⟩
  · exact absurd (h ▸ hs.commentMarker) (by decide)
  · exact absurd (hs.not_isWhiteSpace _ h) (by decide)
  · exact absurd (h ▸ hs.separator) (by decide)

theorem Settings.IsValid.legible_deferralText {key : String} {value : Option String}
    (hkey : '\n' ∉ key.toList) (hvalue : ∀ v ∈ value, '\n' ∉ v.toList) :
    (Line.comment (.make (s.deferralText key value))).Legible := by
  obtain ⟨hcomment, hmarker, hseparator⟩ := hs.newline_not_mem
  refine Comment.not_mem_text_make (by decide) ?_
  cases value with
  | none => simp [Settings.deferralText, hcomment, hmarker, hseparator, hkey]
  | some v => simp [Settings.deferralText, hcomment, hmarker, hseparator, hkey, hvalue v rfl]

theorem Settings.IsValid.legible_referenceText {value : String} (hvalue : '\n' ∉ value.toList) :
    (Line.comment (.make (s.referenceText value))).Legible := by
  obtain ⟨hcomment, -, -⟩ := hs.newline_not_mem
  refine Comment.not_mem_text_make (by decide) ?_
  simp [Settings.referenceText, Settings.referenceMarker, hcomment, hvalue]

theorem Content.legible_counterpart {d : Content} (hd : ∀ l ∈ d.lines, l.Legible) {e : Entry}
    (he : (Line.entry e).Legible) : (d.counterpart s e).Legible := by
  rw [Content.counterpart]
  split
  · rename_i own hown
    exact hd _ (Content.mem_of_entry?_eq_some hown).1
  · refine hs.legible_deferralText he.1 fun v hv => ?_
    split at hv
    · exact Option.some.inj hv ▸ he.2.2.1
    · cases hv

theorem Content.legible_update {d reference : Content} (hd : ∀ l ∈ d.lines, l.Legible)
    (hreference : ∀ l ∈ reference.lines, l.Legible) : ∀ l ∈ (d.update s reference).lines, l.Legible := by
  intro l hl
  obtain ⟨source, hsource, hl⟩ := List.mem_flatMap.1 ((Content.lines_ofLines_sublist _ _).subset hl)
  have hlegible := hreference source hsource
  cases source with
  | entry e =>
    have hcounterpart := Content.legible_counterpart hs hd hlegible
    simp only [Content.replacement] at hl
    split at hl
    · rcases List.mem_cons.1 hl with rfl | hl
      · exact hs.legible_referenceText hlegible.2.2.1
      · exact List.mem_singleton.1 hl ▸ hcounterpart
    · exact List.mem_singleton.1 hl ▸ hcounterpart
  | comment c => exact List.mem_singleton.1 hl ▸ hlegible
  | blank => exact List.mem_singleton.1 hl ▸ hlegible

end Written

end BundleCheck
