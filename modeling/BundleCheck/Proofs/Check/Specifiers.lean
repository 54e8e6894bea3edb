import BundleCheck.Proofs.Check.Counterparts
import BundleCheck.Proofs.Check.Inspection
import BundleCheck.Proofs.Pattern.Runs

/-!
# Formatting specifiers

The specifiers of a value can be told without going over it: each is a percent sign with the specifier characters
behind it, of which none is left out, and every such place has one. A percent sign is no specifier character, so
these runs do not overlap and a scan meets them in order, as does a search for the pattern that goes on behind each
match. Two values are then compared as two lists, first by their lengths and then up to the first difference.
-/

namespace BundleCheck

open Pattern (CharSet Expression)

namespace FormattingValues

/-! ### Maximal runs -/

/-- The first two specifiers that differ in their text, behind as many on either side that agree. -/
def FirstDifference (expected found : List Specifier) (x y : Specifier) : Prop :=
  ∃ before before' after after', expected = before ++ x :: after ∧ found = before' ++ y :: after' ∧
    before.map Specifier.text = before'.map Specifier.text ∧ x.text ≠ y.text

theorem FirstDifference.cons {expected found : List Specifier} {x y s s' : Specifier}
    (h : FirstDifference expected found x y) (hsame : s.text = s'.text) :
    FirstDifference (s :: expected) (s' :: found) x y := by
  obtain ⟨before, before', after, after', rfl, rfl, hbefore, hne⟩ := h
  refine ⟨s :: before, s' :: before', after, after', rfl, rfl, ?_, hne⟩
  rw [List.map_cons, List.map_cons, hsame, hbefore]

/-- Lists of one length agree in all texts, or else the search goes to their first difference. -/
theorem find?_zip_cases {expected found : List Specifier} (hlength : expected.length = found.length) :
    (expected.map Specifier.text = found.map Specifier.text ∧
        (expected.zip found).find? (fun (e, f) => e.text != f.text) = none) ∨
      ∃ x y, FirstDifference expected found x y ∧
        (expected.zip found).find? (fun (e, f) => e.text != f.text) = some (x, y) := by
  induction expected generalizing found with
  | nil =>
    cases found with
    | nil => exact .inl ⟨rfl, rfl⟩
    | cons f found => cases hlength
  | cons e expected ih =>
    cases found with
    | nil => cases hlength
    | cons f found =>
      rw [List.zip_cons_cons, List.find?_cons]
      by_cases hsame : e.text = f.text
      · have hne : (e.text != f.text) = false := by simp [hsame]
        simp only [hne]
        rcases ih (Nat.succ.inj hlength) with ⟨htexts, hnone⟩ | ⟨x, y, hfirst, hsome⟩
        · exact .inl ⟨by rw [List.map_cons, List.map_cons, hsame, htexts], hnone⟩
        · exact .inr ⟨x, y, hfirst.cons hsame, hsome⟩
      · have hne : (e.text != f.text) = true := by simp [hsame]
        simp only [hne]
        exact .inr ⟨e, f, ⟨[], [], expected, found, rfl, rfl, rfl, hsame⟩, rfl⟩

theorem FirstDifference.map_text_ne {expected found : List Specifier} {x y : Specifier}
    (h : FirstDifference expected found x y) : expected.map Specifier.text ≠ found.map Specifier.text := by
  obtain ⟨before, before', after, after', rfl, rfl, hbefore, hne⟩ := h
  rw [List.map_append, List.map_append, hbefore, List.map_cons, List.map_cons]
  intro hsame
  exact hne (List.cons.inj (List.append_cancel_left hsame)).1

variable {value reference : String}

theorem remark?_of_length_ne (h : (specifiers reference).length ≠ (specifiers value).length) :
    remark? value reference =
      some ⟨.error, none, countMessage (specifiers reference).length (specifiers value).length⟩ :=
  if_pos h

theorem remark?_of_length_eq (h : (specifiers reference).length = (specifiers value).length) :
    remark? value reference =
      (((specifiers reference).zip (specifiers value)).find? fun (e, f) => e.text != f.text).map fun (e, f) =>
        ⟨.error, some f.column, textMessage e.text f.text⟩ :=
  if_neg (not_not.2 h)

/-- Nothing is said about values with the same specifiers, and about all others something is. -/
theorem remark?_eq_none_iff : remark? value reference = none ↔
    (specifiers value).map Specifier.text = (specifiers reference).map Specifier.text := by
  by_cases hlength : (specifiers reference).length = (specifiers value).length
  · rw [remark?_of_length_eq hlength, Option.map_eq_none_iff]
    rcases find?_zip_cases hlength with ⟨htexts, hnone⟩ | ⟨x, y, hfirst, hsome⟩
    · exact iff_of_true hnone htexts.symm
    · exact iff_of_false (by simp [hsome]) fun htexts => hfirst.map_text_ne htexts.symm
  · refine iff_of_false (by simp [remark?_of_length_ne hlength]) fun htexts => hlength ?_
    rw [← List.length_map (f := Specifier.text), ← htexts, List.length_map]

end FormattingValues

namespace Bundle

open FormattingValues

end Bundle

end BundleCheck
