import BundleCheck.Bundle.Deferral
import BundleCheck.Proofs.Bundle.Separation
import BundleCheck.Settings.Validation
import Mathlib.Data.List.DropRight

/-!
# Which lines defer which keys

A line defers a key if it can be taken apart into a comment mark, the deferral marker, the key, a separator and
the rest, with white space between the first four. If it can be taken apart in several ways, because the marker
begins with white space, the key is the same in all of them: it begins behind all the white space after the marker,
and it ends where white space or a separator comes.

A key with white space or a separator in it is deferred by no line, although keys of entries can have them:
white space between words, or a separator behind a backslash. Every other key is got back from the comment that
the program writes for it.
-/

namespace BundleCheck

namespace Deferral

open Unicode (isWhiteSpace)

/-! ### Characters -/

theorem isCommentMarker_iff {c : Char} : isCommentMarker c = true ↔ c = '#' ∨ c = '!' := by
  simp [isCommentMarker]

theorem isKeyChar_iff {c : Char} : isKeyChar c = true ↔ isWhiteSpace c = false ∧ c ≠ '=' ∧ c ≠ ':' := by
  rw [isKeyChar, Bool.and_eq_true, Bool.not_eq_true', Bool.not_eq_true', ← Bool.not_eq_true (isSeparator c),
    Separation.isSeparator_iff, not_or]

theorem not_isWhiteSpace_of_isKeyChar {c : Char} (h : isKeyChar c = true) : isWhiteSpace c = false :=
  (isKeyChar_iff.1 h).1

theorem not_isWhiteSpace_of_isSeparator {c : Char} (h : isSeparator c = true) : isWhiteSpace c = false := by
  rcases Separation.isSeparator_iff.1 h with rfl | rfl <;> decide

/-! ### What a key is followed by -/

/-- The text goes on with a separator, perhaps after white space, and then on the same line to its end. -/
def SeparatorAhead (s : List Char) : Prop :=
  ∃ gap sep rest, s = gap ++ sep :: rest ∧ (∀ c ∈ gap, isWhiteSpace c = true) ∧ isSeparator sep = true ∧ '\n' ∉ rest

/-- The text begins with the key, perhaps after white space, and a separator follows. -/
def LeadsWith (s key : List Char) : Prop :=
  ∃ front rest, s = front ++ (key ++ rest) ∧ (∀ c ∈ front, isWhiteSpace c = true) ∧ key ≠ [] ∧
    (∀ c ∈ key, isKeyChar c = true) ∧ SeparatorAhead rest

variable {s key : List Char}

/-- No key goes on where a separator is ahead. -/
theorem SeparatorAhead.not_isKeyChar (h : SeparatorAhead s) : ∀ c ∈ s.head?, isKeyChar c = false := by
  obtain ⟨gap, sep, rest, rfl, hgap, hsep, -⟩ := h
  intro c hc
  cases gap with
  | nil =>
    obtain rfl : sep = c := Option.some.inj hc
    simp [isKeyChar, hsep]
  | cons d gap =>
    obtain rfl : d = c := Option.some.inj hc
    simp [isKeyChar, hgap d List.mem_cons_self]

theorem separatorAhead_iff : SeparatorAhead s ↔
    ∃ sep rest, s.dropWhile isWhiteSpace = sep :: rest ∧ isSeparator sep = true ∧ '\n' ∉ rest := by
  constructor
  · rintro ⟨gap, sep, rest, rfl, hgap, hsep, hrest⟩
    refine ⟨sep, rest, ?_, hsep, hrest⟩
    rw [List.dropWhile_append_of_pos hgap, List.dropWhile_cons_of_neg (by simp [not_isWhiteSpace_of_isSeparator hsep])]
  · rintro ⟨sep, rest, hdrop, hsep, hrest⟩
    refine ⟨s.takeWhile isWhiteSpace, sep, rest, ?_, List.all_eq_true.1 List.all_takeWhile, hsep, hrest⟩
    rw [← hdrop, List.takeWhile_append_dropWhile]

theorem leadingKey?_eq_some_iff : leadingKey? s = some key ↔ LeadsWith s key := by
  rw [leadingKey?]
  constructor
  · intro h
    split at h
    · cases h
    · rename_i sep rest hrest
      split at h
      · rename_i hsep
        simp only [Bool.and_eq_true, Bool.not_eq_true', List.isEmpty_eq_false_iff] at hsep
        obtain ⟨⟨hsep, hne⟩, hline⟩ := hsep
        rw [← Option.some.inj h]
        refine ⟨s.takeWhile isWhiteSpace, (s.dropWhile isWhiteSpace).dropWhile isKeyChar, ?_,
          List.all_eq_true.1 List.all_takeWhile, hne, List.all_eq_true.1 List.all_takeWhile,
          separatorAhead_iff.2 ⟨sep, rest, hrest, hsep, by simpa using hline⟩⟩
        rw [List.takeWhile_append_dropWhile, List.takeWhile_append_dropWhile]
      · cases h
  · rintro ⟨front, rest, rfl, hfront, hne, hkey, hahead⟩
    have hstart : (front ++ (key ++ rest)).dropWhile isWhiteSpace = key ++ rest := by
      rw [List.dropWhile_append_of_pos hfront]
      cases key with
      | nil => exact absurd rfl hne
      | cons c key =>
        exact List.dropWhile_cons_of_neg (by simp [not_isWhiteSpace_of_isKeyChar (hkey c List.mem_cons_self)])
    have hstop := hahead.not_isKeyChar
    have hend : rest.takeWhile isKeyChar = [] ∧ rest.dropWhile isKeyChar = rest := by
      cases rest with
      | nil => exact ⟨rfl, rfl⟩
      | cons c rest => simp [hstop c rfl]
    obtain ⟨sep, line, hdrop, hsep, hline⟩ := separatorAhead_iff.1 hahead
    rw [hstart]
    simp only [List.takeWhile_append_of_pos hkey, List.dropWhile_append_of_pos hkey, hend.1, hend.2,
      List.append_nil, hdrop, hsep, Bool.true_and]
    rw [if_pos]
    simp [hne, hline]

theorem leadsWith_cons_iff {c : Char} (hc : isWhiteSpace c = true) : LeadsWith (c :: s) key ↔ LeadsWith s key := by
  rw [← leadingKey?_eq_some_iff, ← leadingKey?_eq_some_iff, leadingKey?, leadingKey?, List.dropWhile_cons_of_pos hc]

/-! ### Keys that were found -/

/-- Whether there can be a comment that defers the key. -/
def canHold (key : String) : Bool := key.toList.all isKeyChar

theorem all_isKeyChar_of_keyBehind? {marker : List Char} (h : keyBehind? marker s = some key) :
    key.all isKeyChar = true := by
  fun_induction keyBehind? marker s with
  | case1 s found hfound =>
    obtain ⟨rest, -, hrest⟩ := Option.bind_eq_some_iff.1 hfound
    obtain ⟨-, -, -, -, -, hkey, -⟩ := leadingKey?_eq_some_iff.1 hrest
    rw [← Option.some.inj h, List.all_eq_true]
    exact hkey
  | case2 => cases h
  | case3 c rest hspace hnone ih => exact ih h
  | case4 => cases h

theorem canHold_of_ofComment? {marker : String} {c : Comment} {key : String}
    (h : ofComment? marker c = some key) : canHold key = true := by
  obtain ⟨found, hfound, rfl⟩ := Option.map_eq_some_iff.1 h
  rw [canHold, String.toList_ofList]
  unfold key? at hfound
  split at hfound
  · cases hfound
  · split at hfound
    · exact all_isKeyChar_of_keyBehind? hfound
    · cases hfound

/-! ### Lines that defer a key -/

/-- The line is a comment that begins with the marker, and the marker is followed by the key. -/
def IsDeferral (marker line key : List Char) : Prop :=
  ∃ mark gap rest, line = mark :: (gap ++ (marker ++ rest)) ∧ (mark = '#' ∨ mark = '!') ∧
    (∀ c ∈ gap, isWhiteSpace c = true) ∧ LeadsWith rest key

theorem behind?_eq_some_iff {marker rest : List Char} : behind? marker s = some rest ↔ s = marker ++ rest := by
  induction marker generalizing s with
  | nil => simp [behind?]
  | cons m marker ih =>
    cases s with
    | nil => simp [behind?]
    | cons c s =>
      rw [behind?, List.cons_append, List.cons.injEq]
      split
      · rename_i hm
        rw [ih, and_iff_right hm.symm]
      · rename_i hm
        simp [Ne.symm hm]

section Marker

variable {marker : List Char} (hne : marker ≠ []) (hmarker : ∀ c ∈ marker, isWhiteSpace c = false)

include hne hmarker

theorem behind?_of_isWhiteSpace {c : Char} (hc : isWhiteSpace c = true) (s : List Char) :
    behind? marker (c :: s) = none := by
  cases marker with
  | nil => exact absurd rfl hne
  | cons m marker =>
    have hm : m ≠ c := by
      rintro rfl
      rw [hmarker _ List.mem_cons_self] at hc
      cases hc
    rw [behind?, if_neg hm]

/-- A marker without white space is looked for behind all the white space, since it stands at no place before that. -/
theorem keyBehind?_eq (s : List Char) :
    keyBehind? marker s = (behind? marker (s.dropWhile isWhiteSpace)).bind leadingKey? := by
  induction s with
  | nil =>
    rw [keyBehind?, List.dropWhile_nil]
    cases (behind? marker []).bind leadingKey? <;> rfl
  | cons c s ih =>
    rw [keyBehind?]
    cases hc : isWhiteSpace c with
    | true =>
      rw [behind?_of_isWhiteSpace hne hmarker hc, List.dropWhile_cons_of_pos hc, ← ih]
      rfl
    | false =>
      rw [List.dropWhile_cons_of_neg (by simp [hc])]
      cases (behind? marker (c :: s)).bind leadingKey? <;> rfl

end Marker

/-! ### One key at most -/

variable {marker : List Char}

theorem leadingKey?_dropWhile (s : List Char) : leadingKey? (s.dropWhile isWhiteSpace) = leadingKey? s := by
  simp only [leadingKey?, List.dropWhile_idempotent]

/-- White space before the marker is skipped, and so is white space behind it, whichever of the two it is counted
to. -/
theorem leadingKey?_eq_of_shift {gap rest rest' : List Char} (hgap : ∀ c ∈ gap, isWhiteSpace c = true)
    (h : marker ++ rest = gap ++ (marker ++ rest')) : leadingKey? rest = leadingKey? rest' := by
  have hdrop := congrArg (List.dropWhile isWhiteSpace) h
  rw [List.dropWhile_append_of_pos hgap, List.dropWhile_append, List.dropWhile_append] at hdrop
  split at hdrop
  · rw [← leadingKey?_dropWhile rest, hdrop, leadingKey?_dropWhile]
  · rw [List.append_cancel_left hdrop]

theorem eq_of_leadsWith_of_shift {gap gap' rest rest' key key' : List Char} (hgap : ∀ c ∈ gap, isWhiteSpace c = true)
    (hgap' : ∀ c ∈ gap', isWhiteSpace c = true) (h : gap ++ (marker ++ rest) = gap' ++ (marker ++ rest'))
    (hkey : LeadsWith rest key) (hkey' : LeadsWith rest' key') : key = key' := by
  have hsame : leadingKey? rest = leadingKey? rest' := by
    rcases List.append_eq_append_iff.1 h with ⟨more, rfl, hmore⟩ | ⟨more, rfl, hmore⟩
    · exact leadingKey?_eq_of_shift (fun c hc => hgap' c (List.mem_append_right gap hc)) hmore
    · exact (leadingKey?_eq_of_shift (fun c hc => hgap c (List.mem_append_right gap' hc)) hmore).symm
  rw [leadingKey?_eq_some_iff.2 hkey, leadingKey?_eq_some_iff.2 hkey'] at hsame
  exact Option.some.inj hsame

theorem IsDeferral.unique {line key key' : List Char} (h : IsDeferral marker line key)
    (h' : IsDeferral marker line key') : key = key' := by
  obtain ⟨mark, gap, rest, rfl, -, hgap, hkey⟩ := h
  obtain ⟨mark', gap', rest', hline, -, hgap', hkey'⟩ := h'
  exact eq_of_leadsWith_of_shift hgap hgap' (List.cons.inj hline).2 hkey hkey'

/-! ### The search for the key -/

theorem keyBehind?_eq_some_iff {marker s : List Char} : keyBehind? marker s = some key ↔
    ∃ gap rest, s = gap ++ (marker ++ rest) ∧ (∀ c ∈ gap, isWhiteSpace c = true) ∧ LeadsWith rest key := by
  constructor
  · intro h
    fun_induction keyBehind? marker s with
    | case1 s found hfound =>
      obtain ⟨rest, hrest, hkey⟩ := Option.bind_eq_some_iff.1 hfound
      rw [← Option.some.inj h]
      refine ⟨[], rest, ?_, List.forall_mem_nil _, leadingKey?_eq_some_iff.1 hkey⟩
      rw [List.nil_append]
      exact behind?_eq_some_iff.1 hrest
    | case2 => cases h
    | case3 c rest hspace hnone ih =>
      obtain ⟨gap, rest, rfl, hgap, hkey⟩ := ih h
      exact ⟨c :: gap, rest, rfl, List.forall_mem_cons.2 ⟨hspace, hgap⟩, hkey⟩
    | case4 => cases h
  · rintro ⟨gap, rest, rfl, hgap, hkey⟩
    have hhere : ∀ {gap}, (∀ c ∈ gap, isWhiteSpace c = true) → ∀ found,
        (behind? marker (gap ++ (marker ++ rest))).bind leadingKey? = some found → found = key := by
      intro gap hgap found hfound
      obtain ⟨rest', hrest', hfound⟩ := Option.bind_eq_some_iff.1 hfound
      have hshift : [] ++ (marker ++ rest') = gap ++ (marker ++ rest) := (behind?_eq_some_iff.1 hrest').symm
      exact eq_of_leadsWith_of_shift (List.forall_mem_nil _) hgap hshift (leadingKey?_eq_some_iff.1 hfound) hkey
    have hback : (behind? marker (marker ++ rest)).bind leadingKey? = some key := by
      rw [behind?_eq_some_iff.2 rfl, Option.bind_some, leadingKey?_eq_some_iff.2 hkey]
    induction gap with
    | nil =>
      rw [List.nil_append]
      unfold keyBehind?
      rw [hback]
    | cons c gap ih =>
      unfold keyBehind?
      cases hfound : (behind? marker (c :: gap ++ (marker ++ rest))).bind leadingKey? with
      | some found => rw [hhere hgap found hfound]
      | none =>
        obtain ⟨hc, hgap⟩ := List.forall_mem_cons.1 hgap
        rw [List.cons_append]
        simp only [hc, if_true]
        exact ih hgap

theorem key?_eq_some_iff {line : List Char} : key? marker line = some key ↔ IsDeferral marker line key := by
  cases line with
  | nil => simp [key?, IsDeferral]
  | cons c line =>
    rw [key?, IsDeferral]
    constructor
    · intro h
      split at h
      · rename_i hc
        obtain ⟨gap, rest, rfl, hgap, hkey⟩ := keyBehind?_eq_some_iff.1 h
        exact ⟨c, gap, rest, rfl, isCommentMarker_iff.1 hc, hgap, hkey⟩
      · cases h
    · rintro ⟨mark, gap, rest, hline, hc, hgap, hkey⟩
      obtain ⟨rfl, rfl⟩ := List.cons.inj hline
      rw [if_pos (isCommentMarker_iff.2 hc)]
      exact keyBehind?_eq_some_iff.2 ⟨gap, rest, rfl, hgap, hkey⟩

end Deferral

/-! ### Comments that the program writes -/

theorem Settings.toList_deferralText (s : Settings) (key : String) (value : Option String) :
    (s.deferralText key value).toList =
      s.commentMarker :: ' ' :: (s.deferralMarker.toList ++
        ' ' :: (key.toList ++ ' ' :: s.separator :: value.elim [] fun v => ' ' :: v.toList)) := by
  cases value with
  | none => simp [deferralText]
  | some v => simp [deferralText]

theorem Settings.toList_referenceText (s : Settings) (value : String) :
    (s.referenceText value).toList = s.commentMarker :: ' ' :: '>' :: '>' :: ' ' :: value.toList := by
  simp [referenceText, referenceMarker]

theorem Settings.IsValid.startsAsComment_deferralText {s : Settings} (hs : s.IsValid) (key : String)
    (value : Option String) : startsAsComment (s.deferralText key value).toList = true := by
  rw [s.toList_deferralText]
  exact hs.commentMarker

theorem Settings.IsValid.startsAsComment_referenceText {s : Settings} (hs : s.IsValid) (value : String) :
    startsAsComment (s.referenceText value).toList = true := by
  rw [s.toList_referenceText]
  exact hs.commentMarker

/-! ### Keys that are got back -/

section Written

variable {s : Settings} (hs : s.IsValid)

include hs

open Deferral

/-- The comment that is written for a key defers it exactly if there can be a comment that does. -/
theorem Settings.IsValid.isDeferral_deferralText_iff {key : String} {value : Option String} (hne : key ≠ "")
    (hvalue : ∀ v ∈ value, '\n' ∉ v.toList) :
    IsDeferral s.deferralMarker.toList (s.deferralText key value).toList key.toList ↔ canHold key = true := by
  rw [canHold, List.all_eq_true]
  constructor
  · rintro ⟨mark, gap, rest, -, -, -, hlead⟩
    obtain ⟨-, -, -, -, -, hkey, -⟩ := hlead
    exact hkey
  · intro hkey
    have hblank : ∀ c ∈ [' '], Unicode.isWhiteSpace c = true := List.forall_mem_singleton.2 (by decide)
    have hrest : '\n' ∉ value.elim [] fun v => ' ' :: v.toList := by
      cases value with
      | none => exact List.not_mem_nil
      | some v => simpa using hvalue v rfl
    have hahead : SeparatorAhead (' ' :: s.separator :: value.elim [] fun v => ' ' :: v.toList) :=
      ⟨[' '], s.separator, _, rfl, hblank, hs.separator, hrest⟩
    refine ⟨s.commentMarker, [' '], _, s.toList_deferralText key value, isCommentMarker_iff.1 hs.commentMarker,
      hblank, ?_⟩
    exact ⟨[' '], _, rfl, hblank, mt String.toList_eq_nil_iff.1 hne, hkey, hahead⟩

theorem Settings.IsValid.ofComment?_deferralText {key : String} {value : Option String}
    (hhold : canHold key = true) (hne : key ≠ "") (hvalue : ∀ v ∈ value, '\n' ∉ v.toList) :
    ofComment? s.deferralMarker (.make (s.deferralText key value)) = some key := by
  have hkey := key?_eq_some_iff.2 ((hs.isDeferral_deferralText_iff hne hvalue).2 hhold)
  rw [ofComment?, Comment.make, dif_pos (hs.startsAsComment_deferralText key value)]
  simp only [hkey, Option.map_some, String.ofList_toList]

end Written

end BundleCheck
