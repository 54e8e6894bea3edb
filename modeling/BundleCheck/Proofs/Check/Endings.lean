import BundleCheck.Proofs.Check.Counterparts

/-!
# Endings

A value is held to the first of the listed endings that its reference has, and a warning names the one that stands
in its place. The two are told apart by one search each over a list in which an ending can be a part of another or
come twice, or be empty. That the warning does not contradict itself rests on three facts only: what the search
finds is an ending, so is the last character, and the expected one is not.
-/

namespace BundleCheck

namespace Punctuation

/-- The first of the listed endings that is not empty and that the value has. -/
def IsFirstEnding (endings : List String) (value ending : String) : Prop :=
  ∃ before after, endings = before ++ ending :: after ∧ ending ≠ "" ∧ ending.toList <:+ value.toList ∧
    ∀ other ∈ before, other = "" ∨ ¬ other.toList <:+ value.toList

variable {endings : List String} {value ending : String}

theorem endsWith_iff : endsWith value ending = true ↔ ending.toList <:+ value.toList :=
  List.isSuffixOf_iff_suffix

theorem ending?_eq_some_iff : ending? endings value = some ending ↔ IsFirstEnding endings value ending := by
  have hmiss : ∀ other : String, (!(other != "" && endsWith value other)) = true ↔
      other = "" ∨ ¬ other.toList <:+ value.toList := by
    intro other
    rw [Bool.not_eq_true', Bool.and_eq_false_iff, bne_eq_false_iff_eq, ← endsWith_iff, Bool.not_eq_true]
  rw [ending?, List.find?_eq_some_iff_append, Bool.and_eq_true, bne_iff_ne, endsWith_iff]
  simp only [hmiss, IsFirstEnding]
  constructor
  · rintro ⟨⟨hne, hsuffix⟩, before, after, hlist, hbefore⟩
    exact ⟨before, after, hlist, hne, hsuffix, hbefore⟩
  · rintro ⟨before, after, hlist, hne, hsuffix, hbefore⟩
    exact ⟨⟨hne, hsuffix⟩, before, after, hlist, hbefore⟩

theorem IsFirstEnding.suffix (h : IsFirstEnding endings value ending) : ending.toList <:+ value.toList := by
  obtain ⟨-, -, -, -, hsuffix, -⟩ := h
  exact hsuffix

end Punctuation

namespace Bundle

open Punctuation

end Bundle

end BundleCheck
