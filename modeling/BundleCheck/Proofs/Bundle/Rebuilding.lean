import BundleCheck.Proofs.Bundle.Deferral
import BundleCheck.Proofs.Bundle.Update
import Mathlib.Data.List.Induction

/-!
# What an update builds

The lines of an updated translation are the lines of its reference, each replaced by what stands for it. For a comment
or a blank line that is the line itself. For an entry it is the entry that the translation has for the key, or a
comment that defers the key if it has none, and above it the value of the reference where the settings ask for it.
Everything else about the content is told by these lines: none of them is lost, the keys are those of the reference
that the translation has, and the deferred keys are those that the comments defer, each where it comes first.
-/

namespace BundleCheck

/-- The comment above what stands for an entry, where the value of the reference is to be written there. -/
def Settings.heading (s : Settings) (e : Entry) : List Line :=
  if s.writeReference then [.comment (.make (s.referenceText e.value))] else []

namespace Content

/-- What stands in a translation for a line of the reference. -/
inductive Replaces (s : Settings) (d : Content) : Line → List Line → Prop
  | comment (c : Comment) : Replaces s d (.comment c) [.comment c]
  | blank : Replaces s d .blank [.blank]
  | own {e own : Entry} (hown : .entry own ∈ d.lines) (hkey : own.key = e.key) :
      Replaces s d (.entry e) (s.heading e ++ [.entry own])
  | deferral {e : Entry} (hkey : e.key ∉ d.keys) :
      Replaces s d (.entry e)
        (s.heading e ++ [.comment (.make (s.deferralText e.key (if s.writeContent then some e.value else none)))])

variable {s : Settings} {d reference : Content}

/-! ### Lines -/

theorem replacement_entry (s : Settings) (d : Content) (e : Entry) :
    d.replacement s (.entry e) = s.heading e ++ [d.counterpart s e] := by
  rw [replacement, Settings.heading]
  split <;> rfl

/-- One thing only stands for a line. -/
theorem replaces_iff (hd : d.Coherent) {line : Line} {block : List Line} :
    Replaces s d line block ↔ d.replacement s line = block := by
  constructor
  · rintro (c | _ | ⟨hown, hkey⟩ | hkey)
    · rfl
    · rfl
    · rw [replacement_entry, counterpart, hd.entry?_eq_some_iff.2 ⟨hown, hkey⟩]
    · rw [replacement_entry, counterpart, hd.entry?_eq_none_iff.2 hkey]
  · rintro rfl
    cases line with
    | entry e =>
      rw [replacement_entry, counterpart]
      cases hentry : d.entry? e.key with
      | none => exact .deferral (hd.entry?_eq_none_iff.1 hentry)
      | some own =>
        obtain ⟨hown, hkey⟩ := hd.entry?_eq_some_iff.1 hentry
        exact .own hown hkey
    | comment c => exact .comment c
    | blank => exact .blank

theorem forall₂_replaces (hd : d.Coherent) (lines : List Line) :
    List.Forall₂ (Replaces s d) lines (lines.map (d.replacement s)) := by
  rw [List.forall₂_map_right_iff, List.forall₂_same]
  exact fun line _ => (replaces_iff hd).2 rfl

theorem length_replacement (s : Settings) (d : Content) (line : Line) :
    (d.replacement s line).length =
      1 + if s.writeReference then (if line.entry?.isSome then 1 else 0) else 0 := by
  cases line with
  | entry e =>
    rw [replacement]
    split <;> rfl
  | comment c => simp [replacement, Line.entry?]
  | blank => simp [replacement, Line.entry?]

theorem length_flatMap_replacement (s : Settings) (d : Content) (lines : List Line) :
    (lines.flatMap (d.replacement s)).length =
      lines.length + if s.writeReference then lines.countP (fun l => l.entry?.isSome) else 0 := by
  induction lines with
  | nil => simp
  | cons line rest ih =>
    rw [List.flatMap_cons, List.length_append, ih, length_replacement, List.length_cons, List.countP_cons]
    split <;> omega

/-! ### Deferred keys -/

theorem foldl_recorded (keys : List String) : keys.foldl recorded [] = keys.eraseDups := by
  induction keys using List.reverseRecOn with
  | nil => rfl
  | append_singleton keys key ih => rw [List.foldl_append, ih, eraseDups_concat, List.foldl_cons, List.foldl_nil]

/-- What is deferred is told by the lines, each key where it comes first. -/
theorem deferred_ofLines (marker : String) (lines : List Line) :
    (ofLines marker lines).deferred =
      ((ofLines marker lines).lines.filterMap (Line.deferred? marker)).eraseDups := by
  rw [← foldl_recorded]
  conv_lhs => rw [← ofLines_lines]
  exact deferred_foldl_take marker _ empty

end Content

/-! ### Documents -/

namespace Bundle

/-- An update puts something for each line of the reference and loses none of it. It keeps the entries of the
translation that the reference has a place for, unchanged and in the order of the reference, and all else is of the
reference or written by the program, with a comment marker of its own if the settings are valid. -/
theorem update_rebuilds {t reference : Bundle} (ht : t.Built) (hreference : reference.Built) (s : Settings) :
    let after := t.update s reference
    (∃ blocks, List.Forall₂ (Content.Replaces s t.content) reference.content.lines blocks ∧
      after.content.lines = blocks.flatten) ∧
    after.content.lines.length = reference.content.lines.length +
      (if s.writeReference then reference.content.lines.countP (fun l => l.entry?.isSome) else 0) ∧
    after.content.keys = reference.content.keys.filter (· ∈ t.content.keys) ∧
    after.content.deferred = (after.content.lines.filterMap (Line.deferred? s.deferralMarker)).eraseDups ∧
    (after.report = t.report ∧ after.file = t.file ∧ after.language = t.language) ∧
    (s.IsValid → ∀ (key value : String) (kept : Option String),
      (Comment.make (s.deferralText key kept)).text = s.deferralText key kept ∧
        (Comment.make (s.referenceText value)).text = s.referenceText value) := by
  intro after
  have hd := ht.coherent
  have hlines : after.content.lines = reference.content.lines.flatMap (t.content.replacement s) :=
    Content.lines_update hd hreference.coherent
  refine ⟨⟨_, Content.forall₂_replaces hd _, ?_⟩, ?_, ?_, Content.deferred_ofLines _ _, ⟨rfl, rfl, rfl⟩, ?_⟩
  · rw [hlines, List.flatMap_def]
  · rw [hlines, Content.length_flatMap_replacement]
  · refine (Content.keys_update hd hreference.coherent).trans (List.filter_congr fun key _ => ?_)
    rw [Bool.eq_iff_iff, hd.contains_iff, decide_eq_true_iff]
  · intro hs key value kept
    exact ⟨Comment.text_make (hs.startsAsComment_deferralText key kept),
      Comment.text_make (hs.startsAsComment_referenceText value)⟩

/-- The translation has the keys in another order, one that the reference has not, and a deferred key of its own. -/
theorem update_rebuilds_with_values :
    let s : Settings := { separator := ':', writeContent := true, writeReference := true }
    let reference := (Bundle.empty.read s "# Top\na = 1\n\nc = 3\n# ==> a =\nb = 2").1
    let t := ((Bundle.ofLanguage "de").read s "b : zwei\n# ==> d =\nstale = x\na = eins").1
    let after := t.update s reference
    t.Built ∧ reference.Built ∧ s.IsValid ∧ after.content.text =
        "# Top\n# >> 1\na = eins\n\n# >> 3\n# ==> c : 3\n# ==> a =\n# >> 2\nb : zwei" ∧
      after.content.lines.length = reference.content.lines.length + 3 ∧ after.content.keys = ["a", "b"] ∧
      after.content.deferred = ["c", "a"] ∧ after.language = some "de" := by
  intro s reference t after
  have ht : t.Built := .read _ _ (.ofLanguage _)
  have hreference : reference.Built := .read _ _ .empty
  have hs : s.IsValid := by decide +kernel
  have htext : after.content.text =
      "# Top\n# >> 1\na = eins\n\n# >> 3\n# ==> c : 3\n# ==> a =\n# >> 2\nb : zwei" := by decide +kernel
  obtain ⟨-, hlength, hkeys, hdeferred, ⟨-, -, hlanguage⟩, -⟩ := update_rebuilds ht hreference s
  refine ⟨ht, hreference, hs, htext, hlength.trans ?_, hkeys.trans ?_, hdeferred.trans ?_, hlanguage⟩
  · decide +kernel
  · decide +kernel
  · decide +kernel

end Bundle

end BundleCheck
