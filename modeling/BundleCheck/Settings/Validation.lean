import BundleCheck.Bundle.Line
import BundleCheck.Check.Suite

/-!
# Validity of settings

What the program writes has to be readable for it again, so separator, comment marker and deferral
marker are checked before a run, together with the suffix that tells translation files from others and
the patterns of the enabled checks. The first fault is the one that is reported.
-/

namespace BundleCheck

inductive SettingsFault where
  | separator (c : Char)
  | commentMarker (c : Char)
  | deferralMarker (marker : String)
  | emptySuffix
  | pattern (fault : Pattern.Fault)
deriving DecidableEq, Repr

namespace Settings

/-- Whether the text can tell deferred entries from other comments. -/
def isMarker (marker : String) : Bool :=
  marker != "" && !marker.toList.any Unicode.isWhiteSpace

/-- The first fault of the settings. -/
def fault? (s : Settings) : Option SettingsFault :=
  if !isSeparator s.separator then some (.separator s.separator)
  else if !isCommentMarker s.commentMarker then some (.commentMarker s.commentMarker)
  else if !isMarker s.deferralMarker then some (.deferralMarker s.deferralMarker)
  else if s.fileSuffix = "" then some .emptySuffix
  else
    match s.suite with
    | .error fault => some (.pattern fault)
    | .ok _ => none

/-- Nothing is wrong with the settings. -/
def IsValid (s : Settings) : Prop := s.fault? = none

instance (s : Settings) : Decidable s.IsValid := inferInstanceAs (Decidable (_ = _))

namespace IsValid

variable {s : Settings}

theorem separator (h : s.IsValid) : isSeparator s.separator = true := by
  cases hseparator : isSeparator s.separator with
  | true => rfl
  | false => simp [IsValid, fault?, hseparator] at h

theorem commentMarker (h : s.IsValid) : isCommentMarker s.commentMarker = true := by
  cases hcomment : isCommentMarker s.commentMarker with
  | true => rfl
  | false => simp [IsValid, fault?, h.separator, hcomment] at h

theorem deferralMarker (h : s.IsValid) : isMarker s.deferralMarker = true := by
  cases hmarker : isMarker s.deferralMarker with
  | true => rfl
  | false => simp [IsValid, fault?, h.separator, h.commentMarker, hmarker] at h

theorem deferralMarker_ne_nil (h : s.IsValid) : s.deferralMarker.toList ≠ [] := by
  have hmarker := h.deferralMarker
  simp only [isMarker, Bool.and_eq_true, bne_iff_ne] at hmarker
  rw [ne_eq, String.toList_eq_nil_iff]
  exact hmarker.1

theorem not_isWhiteSpace (h : s.IsValid) : ∀ c ∈ s.deferralMarker.toList, Unicode.isWhiteSpace c = false := by
  have hmarker := h.deferralMarker
  simp only [isMarker, Bool.and_eq_true, Bool.not_eq_true', List.any_eq_false] at hmarker
  intro c hc
  exact Bool.eq_false_iff.2 (hmarker.2 c hc)

/-- With any other marker that can tell deferred entries from comments the settings are as valid. -/
theorem withMarker (h : s.IsValid) {marker : String} (hmarker : isMarker marker = true) :
    IsValid { s with deferralMarker := marker } := by
  have hfault : fault? { s with deferralMarker := marker } = s.fault? := by
    simp only [fault?, h.deferralMarker, hmarker]
    rfl
  rw [IsValid, hfault]
  exact h

end IsValid

end Settings

end BundleCheck
