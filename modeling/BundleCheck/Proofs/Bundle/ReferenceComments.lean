import BundleCheck.Proofs.Bundle.Deferral
import BundleCheck.Proofs.Bundle.RoundTrip
import BundleCheck.Proofs.Check.Locality

/-!
# Comments that repeat a value of the reference

An update can write the value of the reference above each entry, in a comment with a marker of its own. The deferral
marker is free, and two of the markers that settings can name are in that comment too: `>>`, which is the whole of
its marker, and `>`, which is the end of it. Under these a value that reads like an entry defers a key. Under all
other markers the comments defer nothing, whatever the values are, and what is deferred and missing is the same with
and without them, also when the file has been written and read again.
-/

namespace BundleCheck

namespace Deferral

open Unicode (isWhiteSpace)

variable {s key : List Char}

/-- Of a mark with a blank behind it, the mark is the key. -/
theorem leadingKey?_mark : leadingKey? ('>' :: ' ' :: s) = some key ↔ key = ['>'] ∧ SeparatorAhead s := by
  have hstart : ('>' :: ' ' :: s).dropWhile isWhiteSpace = '>' :: ' ' :: s := List.dropWhile_cons_of_neg (by decide)
  have htake : ('>' :: ' ' :: s).takeWhile isKeyChar = ['>'] := by
    rw [List.takeWhile_cons_of_pos (by decide), List.takeWhile_cons_of_neg (by decide)]
  have hdrop : (('>' :: ' ' :: s).dropWhile isKeyChar).dropWhile isWhiteSpace = s.dropWhile isWhiteSpace := by
    rw [List.dropWhile_cons_of_pos (by decide), List.dropWhile_cons_of_neg (by decide),
      List.dropWhile_cons_of_pos (by decide)]
  rw [leadingKey?, separatorAhead_iff]
  simp only [hstart, htake, hdrop]
  cases s.dropWhile isWhiteSpace with
  | nil => simp
  | cons sep rest =>
    dsimp only
    constructor
    · intro h
      split at h
      · rename_i hsep
        simp only [List.isEmpty_cons, Bool.not_false, Bool.and_true, Bool.and_eq_true, Bool.not_eq_true'] at hsep
        exact ⟨(Option.some.inj h).symm, sep, rest, rfl, hsep.1, by simpa using hsep.2⟩
      · cases h
    · rintro ⟨rfl, sep', rest', hcons, hsep, hrest⟩
      obtain ⟨rfl, rfl⟩ := List.cons.inj hcons
      simp [hsep, hrest]

/-! ### Reference comments -/

section Marker

variable {marker : List Char} (hne : marker ≠ []) (hmarker : ∀ c ∈ marker, isWhiteSpace c = false)

include hne hmarker

/-- The two markers under which something is found behind the marker of a reference comment. -/
theorem keyBehind?_reference (value : List Char) :
    keyBehind? marker (' ' :: '>' :: '>' :: ' ' :: value) =
      if marker = ['>', '>'] then leadingKey? (' ' :: value)
      else if marker = ['>'] then leadingKey? ('>' :: ' ' :: value)
      else none := by
  have hstart : (' ' :: '>' :: '>' :: ' ' :: value).dropWhile isWhiteSpace = '>' :: '>' :: ' ' :: value := by
    rw [List.dropWhile_cons_of_pos (by decide), List.dropWhile_cons_of_neg (by decide)]
  rw [keyBehind?_eq hne hmarker, hstart]
  cases marker with
  | nil => exact absurd rfl hne
  | cons m marker =>
    by_cases hm : m = '>'
    · subst hm
      cases marker with
      | nil => rfl
      | cons m marker =>
        by_cases hm : m = '>'
        · subst hm
          cases marker with
          | nil => rfl
          | cons m marker =>
            have hblank : isWhiteSpace ' ' = true := by decide
            have hlong := behind?_of_isWhiteSpace (List.cons_ne_nil m marker)
              (fun c hc => hmarker c (List.mem_cons_of_mem _ (List.mem_cons_of_mem _ hc))) hblank value
            rw [behind?, if_pos rfl, behind?, if_pos rfl, hlong]
            simp
        · simp [behind?, hm]
    · simp [behind?, hm]

end Marker

end Deferral

open Deferral in
/-- What the comment that repeats a value defers: a key at the head of the value, if the marker of such comments is
the deferral marker, and what is left of that marker, if the deferral marker is a part of it. -/
theorem Settings.IsValid.ofComment?_referenceText {s : Settings} (hs : s.IsValid) {value key : String} :
    ofComment? s.deferralMarker (.make (s.referenceText value)) = some key ↔
      s.deferralMarker = ">>" ∧ LeadsWith value.toList key.toList ∨
        s.deferralMarker = ">" ∧ key = ">" ∧ SeparatorAhead value.toList := by
  have hkey : key? s.deferralMarker.toList (s.referenceText value).toList =
      keyBehind? s.deferralMarker.toList (' ' :: '>' :: '>' :: ' ' :: value.toList) := by
    rw [s.toList_referenceText, key?, if_pos hs.commentMarker]
  have hlist : ∀ found : Option (List Char), found.map String.ofList = some key ↔ found = some key.toList := by
    intro found
    cases found with
    | none => simp
    | some k => simp [← String.toList_inj]
  have htwo : s.deferralMarker.toList = ['>', '>'] ↔ s.deferralMarker = ">>" :=
    (String.toList_inj : _ = ">>".toList ↔ _)
  have hone : s.deferralMarker.toList = ['>'] ↔ s.deferralMarker = ">" :=
    (String.toList_inj : _ = ">".toList ↔ _)
  rw [ofComment?, Comment.text_make (hs.startsAsComment_referenceText value), hkey,
    keyBehind?_reference hs.deferralMarker_ne_nil hs.not_isWhiteSpace, hlist]
  by_cases hlong : s.deferralMarker = ">>"
  · rw [if_pos (htwo.2 hlong), leadingKey?_eq_some_iff, leadsWith_cons_iff (by decide)]
    simp [hlong]
  · rw [if_neg (mt htwo.1 hlong)]
    by_cases hshort : s.deferralMarker = ">"
    · rw [if_pos (hone.2 hshort), leadingKey?_mark]
      simp [hshort, ← String.toList_inj]
    · rw [if_neg (mt hone.1 hshort)]
      simp [hlong, hshort]

theorem Settings.IsValid.ofComment?_referenceText_eq_none {s : Settings} (hs : s.IsValid)
    (hshort : s.deferralMarker ≠ ">") (hlong : s.deferralMarker ≠ ">>") (value : String) :
    Deferral.ofComment? s.deferralMarker (.make (s.referenceText value)) = none := by
  refine Option.eq_none_iff_forall_not_mem.2 fun key hkey => ?_
  obtain ⟨h, -⟩ | ⟨h, -⟩ := hs.ofComment?_referenceText.1 hkey
  · exact hlong h
  · exact hshort h

/-- Values in one line defer nothing exactly under markers that are no part of the marker of such comments. -/
theorem Settings.IsValid.ofComment?_referenceText_eq_none_iff {s : Settings} (hs : s.IsValid) :
    (∀ value : String, '\n' ∉ value.toList →
      Deferral.ofComment? s.deferralMarker (.make (s.referenceText value)) = none) ↔
        s.deferralMarker ≠ ">" ∧ s.deferralMarker ≠ ">>" := by
  constructor
  · intro h
    constructor
    · intro hshort
      have hahead : Deferral.SeparatorAhead "=".toList := ⟨[], '=', [], rfl, by simp, rfl, by simp⟩
      have hkey : Deferral.ofComment? s.deferralMarker (.make (s.referenceText "=")) = some ">" :=
        hs.ofComment?_referenceText.2 (.inr ⟨hshort, rfl, hahead⟩)
      rw [h "=" (by decide)] at hkey
      cases hkey
    · intro hlong
      have hk : Deferral.isKeyChar 'k' = true := by decide
      have hleads : Deferral.LeadsWith "k=".toList "k".toList :=
        ⟨[], ['='], rfl, by simp, by simp, by simpa using hk, [], '=', [], rfl, by simp, rfl, by simp⟩
      have hkey : Deferral.ofComment? s.deferralMarker (.make (s.referenceText "k=")) = some "k" :=
        hs.ofComment?_referenceText.2 (.inl ⟨hlong, hleads⟩)
      rw [h "k=" (by decide)] at hkey
      cases hkey
  · intro h value _
    exact hs.ofComment?_referenceText_eq_none h.1 h.2 value

theorem Line.reread_referenceText {s : Settings} (hs : s.IsValid) (value : String) :
    (Line.comment (.make (s.referenceText value))).reread =
      .comment (.make (s.referenceText (String.ofList (Text.dropReturn value.toList)))) := by
  have hfront : ∀ v : String, (s.referenceText v).toList = [s.commentMarker, ' ', '>', '>', ' '] ++ v.toList :=
    s.toList_referenceText
  have hdrop : Text.dropReturn (s.referenceText value).toList =
      [s.commentMarker, ' ', '>', '>', ' '] ++ Text.dropReturn value.toList := by
    rw [hfront]
    cases hvalue : value.toList with
    | nil => exact Text.dropReturn_eq_self (by simp)
    | cons c rest => exact Text.dropReturn_append (List.cons_ne_nil c rest) _
  rw [Line.reread, Comment.text_make (hs.startsAsComment_referenceText value), hdrop]
  congr 2
  rw [← String.toList_inj, String.toList_ofList, hfront, String.toList_ofList]

theorem filterMap_rereadLines {α : Type} {f : Line → Option α} (hblank : f .blank = none) (lines : List Line) :
    (rereadLines lines).filterMap f = lines.filterMap fun l => f l.reread := by
  rw [rereadLines, List.filterMap_map]
  split
  · rename_i hlast
    obtain ⟨front, rfl⟩ := List.getLast?_eq_some_iff.1 hlast
    rw [List.dropLast_concat, List.filterMap_append]
    have hnone : [Line.blank].filterMap (fun l => f l.reread) = [] := List.filterMap_cons_none hblank
    rw [hnone, List.append_nil]
    rfl
  · rfl

/-! ### Updates with and without the comments -/

/-- The settings with the comments switched on or off. -/
def Settings.referencing (s : Settings) (write : Bool) : Settings := { s with writeReference := write }

namespace Content

variable {s : Settings} {d reference : Content} {key : String}

/-- What is picked from the lines of an update is the same if nothing is picked from the comments. -/
theorem filterMap_replacement_referencing {α : Type} {f : Line → Option α}
    (hf : ∀ value : String, f (.comment (.make (s.referenceText value))) = none) (d : Content) (lines : List Line) :
    (lines.flatMap (d.replacement (s.referencing true))).filterMap f =
      (lines.flatMap (d.replacement (s.referencing false))).filterMap f := by
  rw [List.filterMap_flatMap, List.filterMap_flatMap]
  apply List.flatMap_congr
  intro line _
  cases line with
  | entry e => exact List.filterMap_cons_none (hf e.value)
  | comment c => rfl
  | blank => rfl

/-- The comments add to the deferred keys what each of them defers. -/
theorem mem_deferred_update_referencing :
    key ∈ (d.update (s.referencing true) reference).deferred ↔
      key ∈ (d.update (s.referencing false) reference).deferred ∨
        ∃ e, .entry e ∈ reference.lines ∧
          Deferral.ofComment? s.deferralMarker (.make (s.referenceText e.value)) = some key := by
  rw [update, update, mem_deferred_ofLines, mem_deferred_ofLines]
  constructor
  · rintro ⟨line, hline, hkey⟩
    obtain ⟨source, hsource, hmem⟩ := List.mem_flatMap.1 hline
    cases source with
    | entry e =>
      rcases List.mem_cons.1 hmem with rfl | hmem
      · exact .inr ⟨e, hsource, hkey⟩
      · exact .inl ⟨line, List.mem_flatMap.2 ⟨_, hsource, hmem⟩, hkey⟩
    | comment c => exact .inl ⟨line, List.mem_flatMap.2 ⟨_, hsource, hmem⟩, hkey⟩
    | blank => exact .inl ⟨line, List.mem_flatMap.2 ⟨_, hsource, hmem⟩, hkey⟩
  · rintro (⟨line, hline, hkey⟩ | ⟨e, he, hkey⟩)
    · obtain ⟨source, hsource, hmem⟩ := List.mem_flatMap.1 hline
      refine ⟨line, List.mem_flatMap.2 ⟨source, hsource, ?_⟩, hkey⟩
      cases source with
      | entry e => exact List.mem_cons_of_mem _ hmem
      | comment c => exact hmem
      | blank => exact hmem
    · exact ⟨_, List.mem_flatMap.2 ⟨_, he, List.mem_cons_self⟩, hkey⟩

/-- Nor does it make a difference after writing and reading. -/
theorem filterMap_rereadLines_referencing {α : Type} {f : Line → Option α} (hs : s.IsValid) (hd : d.Coherent)
    (hreference : reference.Coherent) (hblank : f .blank = none)
    (hf : ∀ value : String, f (.comment (.make (s.referenceText value))) = none) :
    (rereadLines (d.update (s.referencing true) reference).lines).filterMap f =
      (rereadLines (d.update (s.referencing false) reference).lines).filterMap f := by
  rw [filterMap_rereadLines hblank, filterMap_rereadLines hblank, lines_update hd hreference,
    lines_update hd hreference]
  apply filterMap_replacement_referencing
  intro value
  rw [Line.reread_referenceText hs]
  exact hf _

end Content

/-! ### Documents -/

namespace Bundle

variable {s s₁ s₂ : Settings} {t reference d : Bundle}

theorem Obtained.read_text (h : Obtained s₁ d) (s : Settings) (b : Bundle) :
    (b.read s d.content.text).2 = none ∧
      (b.read s d.content.text).1.content = .ofLines s.deferralMarker (rereadLines d.content.lines) ∧
      (b.read s d.content.text).1.content.keys = (rereadLines d.content.lines).filterMap Line.key? := by
  have hnodup := nodup_keysOf_rereadLines (h.coherent.keys_eq ▸ h.coherent.keys_nodup)
  obtain ⟨hstop, -, hcontent⟩ := read_of_readsAs (readsAs_text h.legible s.deferralMarker) hnodup b
  refine ⟨hstop, hcontent, ?_⟩
  rw [hcontent, (Content.Coherent.ofLines _ _).keys_eq, Content.lines_ofLines hnodup]
  rfl

section Silent

variable (ht : Obtained s₁ t) (hreference : Obtained s₂ reference)
  (hsilent : ∀ value : String, Deferral.ofComment? s.deferralMarker (.make (s.referenceText value)) = none)

include ht hreference hsilent

theorem update_referencing :
    let on := (t.update (s.referencing true) reference).content
    let off := (t.update (s.referencing false) reference).content
    on.keys = off.keys ∧ on.deferred = off.deferred := by
  intro on off
  constructor
  · exact (Content.keys_update ht.coherent hreference.coherent).trans
      (Content.keys_update ht.coherent hreference.coherent).symm
  · show (Content.ofLines _ _).deferred = (Content.ofLines _ _).deferred
    rw [Content.ofLines, Content.ofLines, Content.deferred_foldl_take, Content.deferred_foldl_take]
    congr 1
    exact Content.filterMap_replacement_referencing (f := Line.deferred? s.deferralMarker) hsilent _ _

theorem read_update_referencing (hs : s.IsValid) (b : Bundle) :
    let on := (b.read s (t.update (s.referencing true) reference).content.text).1.content
    let off := (b.read s (t.update (s.referencing false) reference).content.text).1.content
    on.keys = off.keys ∧ on.deferred = off.deferred := by
  intro on off
  have hupdated : ∀ write, Obtained (s.referencing write) (t.update (s.referencing write) reference) :=
    fun write => .update hs ht hreference
  obtain ⟨-, hon, honKeys⟩ := (hupdated true).read_text s b
  obtain ⟨-, hoff, hoffKeys⟩ := (hupdated false).read_text s b
  constructor
  · rw [show on.keys = _ from honKeys, show off.keys = _ from hoffKeys]
    exact Content.filterMap_rereadLines_referencing hs ht.coherent hreference.coherent rfl fun _ => rfl
  · rw [show on = _ from hon, show off = _ from hoff, Content.ofLines, Content.ofLines,
      Content.deferred_foldl_take, Content.deferred_foldl_take]
    congr 1
    exact Content.filterMap_rereadLines_referencing (f := Line.deferred? s.deferralMarker) hs ht.coherent
      hreference.coherent rfl hsilent

end Silent

/-- A comment that repeats a value of the reference defers a key only under the deferral markers `>>` and `>`, and
only if the value reads like an entry or begins with a separator. An update with these comments has one more deferred
key for each of them. Under all other markers it has the same keys and the same deferred keys as one without them,
at once and after it has been written and read again, and the same translations are missing. -/
theorem reference_comments_defer {s : Settings} (hs : s.IsValid) :
    (∀ value key : String, Deferral.ofComment? s.deferralMarker (.make (s.referenceText value)) = some key ↔
      s.deferralMarker = ">>" ∧ Deferral.LeadsWith value.toList key.toList ∨
        s.deferralMarker = ">" ∧ key = ">" ∧ Deferral.SeparatorAhead value.toList) ∧
    ((∀ value : String, '\n' ∉ value.toList →
      Deferral.ofComment? s.deferralMarker (.make (s.referenceText value)) = none) ↔
        s.deferralMarker ≠ ">" ∧ s.deferralMarker ≠ ">>") ∧
    (∀ (t reference : Bundle) (key : String),
      key ∈ (t.update (s.referencing true) reference).content.deferred ↔
        key ∈ (t.update (s.referencing false) reference).content.deferred ∨
          ∃ e, .entry e ∈ reference.content.lines ∧
            Deferral.ofComment? s.deferralMarker (.make (s.referenceText e.value)) = some key) ∧
    (s.deferralMarker ≠ ">" → s.deferralMarker ≠ ">>" → ∀ {s₁ s₂ : Settings} {t reference : Bundle},
      Obtained s₁ t → Obtained s₂ reference → ∀ b : Bundle,
        let on := t.update (s.referencing true) reference
        let off := t.update (s.referencing false) reference
        let onAgain := b.read s on.content.text
        let offAgain := b.read s off.content.text
        (on.content.keys = off.content.keys ∧ on.content.deferred = off.content.deferred) ∧
        (onAgain.2 = none ∧ offAgain.2 = none) ∧
        (onAgain.1.content.keys = offAgain.1.content.keys ∧
          onAgain.1.content.deferred = offAgain.1.content.deferred) ∧
        ∀ (strict : Bool) (other : Content),
          MissingTranslations.findings strict on.content other =
            MissingTranslations.findings strict off.content other ∧
          MissingTranslations.findings strict onAgain.1.content other =
            MissingTranslations.findings strict offAgain.1.content other) := by
  refine ⟨fun value key => hs.ofComment?_referenceText, hs.ofComment?_referenceText_eq_none_iff,
    fun t reference key => Content.mem_deferred_update_referencing, ?_⟩
  intro hshort hlong s₁ s₂ t reference ht hreference b on off onAgain offAgain
  have hsilent := hs.ofComment?_referenceText_eq_none hshort hlong
  have hupdated : ∀ write, Obtained (s.referencing write) (t.update (s.referencing write) reference) :=
    fun write => .update hs ht hreference
  obtain ⟨hkeys, hdeferred⟩ := update_referencing ht hreference hsilent
  obtain ⟨hkeysAgain, hdeferredAgain⟩ := read_update_referencing ht hreference hsilent hs b
  refine ⟨⟨hkeys, hdeferred⟩, ⟨((hupdated true).read_text s b).1, ((hupdated false).read_text s b).1⟩,
    ⟨hkeysAgain, hdeferredAgain⟩, fun strict other => ⟨?_, ?_⟩⟩
  · exact MissingTranslations.findings_congr strict (hupdated true).coherent (hupdated false).coherent rfl
      (fun key => by rw [hkeys]) fun key => by rw [hdeferred]
  · exact MissingTranslations.findings_congr strict (Reading.coherent_ofText _ _).content
      (Reading.coherent_ofText _ _).content rfl (fun key => by rw [hkeysAgain]) fun key => by rw [hdeferredAgain]

/-- The deferral marker is longer than the marker of the comments, and begins with it. -/
theorem reference_comments_defer_longer_marker :
    let s : Settings := { deferralMarker := ">>>", writeReference := true }
    let reference := (Bundle.empty.read s "a = x = 1\nx = 2").1
    let t := (Bundle.empty.read s "a = y").1
    s.IsValid ∧ (t.update (s.referencing true) reference).content.text = "# >> x = 1\na = y\n# >> 2\n# >>> x =" ∧
      (t.update (s.referencing false) reference).content.deferred = ["x"] ∧
      (t.update (s.referencing true) reference).content.deferred = ["x"] := by
  intro s reference t
  have hs : s.IsValid := by decide +kernel
  have ht : Obtained s t := .read hs (by decide +kernel)
  have hreference : Obtained s reference := .read hs (by decide +kernel)
  have htext : (t.update (s.referencing true) reference).content.text = "# >> x = 1\na = y\n# >> 2\n# >>> x =" := by
    decide +kernel
  have hdeferred : (t.update (s.referencing false) reference).content.deferred = ["x"] := by decide +kernel
  have hshort : s.deferralMarker ≠ ">" := by decide
  have hlong : s.deferralMarker ≠ ">>" := by decide
  clear_value s reference t
  obtain ⟨-, -, -, hsame⟩ := reference_comments_defer hs
  obtain ⟨⟨-, honOff⟩, -⟩ := hsame hshort hlong ht hreference .empty
  exact ⟨hs, htext, hdeferred, honOff.trans hdeferred⟩

/-- With the marker of the comments for a deferral marker, a value defers a key that no translation waits for. When
the reference gets an entry for it, the translation that is missing is not noticed, also after the file has been read
again. -/
theorem reference_comment_defers_key :
    let s : Settings := { deferralMarker := ">>", writeReference := true }
    let reference := (Bundle.empty.read s "a = x = 1").1
    let later := (Bundle.empty.read s "a = x = 1\nx = 2").1
    let t := (Bundle.empty.read s "a = y").1
    let updated := t.update s reference
    let again := (Bundle.empty.read s updated.content.text).1
    s.IsValid ∧ s.referenceText "Hello = world" = "# >> Hello = world" ∧
      Deferral.ofComment? s.deferralMarker (.make (s.referenceText "Hello = world")) = some "Hello" ∧
      updated.content.text = "# >> x = 1\na = y" ∧ updated.content.deferred = ["x"] ∧
      again.content.deferred = ["x"] ∧
      MissingTranslations.findings false t.content later.content =
        [.warning none (some "x") "Missing translation."] ∧
      MissingTranslations.findings false updated.content later.content = [] ∧
      MissingTranslations.findings false again.content later.content = [] := by
  decide +kernel

end Bundle

end BundleCheck
