import BundleCheck.Terminal.Style
import Mathlib.Data.List.Basic

/-!
# Texts in colors and without

Colors put codes into a text and leave everything else in its place. That is a statement about two texts at once, one
in colors and one without. It is stated with any text behind them, since only then does it say that the codes are
complete, and so it is kept when such texts are joined. What is painted must not hold codes of its own.
-/

namespace BundleCheck

namespace Style

/-! ### Codes -/

/-- What is left of a text that is read from within a code or from outside of codes. -/
def stripFrom (inCode : Bool) : List Char → List Char
  | [] => []
  | c :: rest =>
    if inCode then stripFrom (c != 'm') rest
    else if c = escape then stripFrom true rest
    else c :: stripFrom false rest

/-- The text without its codes. A code goes from the escape character to the next letter `m`. -/
def strip (text : List Char) : List Char := stripFrom false text

/-- The first text is the second with codes in it, and they are complete. -/
def AddsCodes (colored plain : List Char) : Prop :=
  ∀ rest, strip (colored ++ rest) = plain ++ strip rest

variable {colored colored' plain plain' : List Char}

theorem AddsCodes.strip_eq (h : AddsCodes colored plain) : strip colored = plain := by
  have hend := h []
  rwa [List.append_nil, strip, strip, stripFrom, List.append_nil] at hend

theorem addsCodes_self {text : List Char} (h : escape ∉ text) : AddsCodes text text := by
  intro rest
  induction text with
  | nil => rfl
  | cons c text ih =>
    rw [List.mem_cons, not_or] at h
    rw [List.cons_append, strip, stripFrom, if_neg Bool.false_ne_true, if_neg (Ne.symm h.1), ← strip, ih h.2,
      List.cons_append]

theorem AddsCodes.append (h : AddsCodes colored plain) (h' : AddsCodes colored' plain') :
    AddsCodes (colored ++ colored') (plain ++ plain') := by
  intro rest
  rw [List.append_assoc, h, h', List.append_assoc]

theorem AddsCodes.flatMap {α : Type} {xs : List α} {f g : α → List Char} (h : ∀ x ∈ xs, AddsCodes (f x) (g x)) :
    AddsCodes (xs.flatMap f) (xs.flatMap g) := by
  induction xs with
  | nil => exact addsCodes_self List.not_mem_nil
  | cons x xs ih =>
    obtain ⟨hx, hxs⟩ := List.forall_mem_cons.1 h
    exact hx.append (ih hxs)

theorem stripFrom_code {parameters : List Char} (h : 'm' ∉ parameters) (rest : List Char) :
    stripFrom true (parameters ++ 'm' :: rest) = strip rest := by
  induction parameters with
  | nil => rfl
  | cons c parameters ih =>
    rw [List.mem_cons, not_or] at h
    have hopen : (c != 'm') = true := bne_iff_ne.2 (Ne.symm h.1)
    rw [List.cons_append, stripFrom, if_pos rfl, hopen, ih h.2]

theorem addsCodes_sequence {parameters : List Char} (h : 'm' ∉ parameters) :
    AddsCodes (escape :: '[' :: parameters ++ ['m']) [] := by
  intro rest
  have hbracket : 'm' ∉ '[' :: parameters := by simp [h]
  have hcode := stripFrom_code hbracket rest
  simpa [strip, stripFrom] using hcode

theorem addsCodes_start (s : Style) : AddsCodes s.start [] := by
  refine addsCodes_sequence ?_
  cases s <;> decide

theorem addsCodes_reset : AddsCodes reset [] := @addsCodes_sequence ['0'] (by decide)

theorem restart_eq_self {start text : List Char} (h : escape ∉ text) : restart start text = text := by
  induction text with
  | nil => rfl
  | cons c text ih =>
    rw [List.mem_cons, not_or] at h
    have hc : c ≠ '\x1b' := Ne.symm h.1
    rw [restart, ih h.2]
    intro rest hcode _
    exact hc hcode

end Style

/-! ### Texts in both forms -/

/-- A text that can stand in one row of a listing as it is. -/
def Text.IsInline (text : String) : Prop := Style.escape ∉ text.toList ∧ '\n' ∉ text.toList

instance : DecidablePred Text.IsInline := fun _ => inferInstanceAs (Decidable (_ ∧ _))

theorem Text.IsInline.append {s t : String} (hs : Text.IsInline s) (ht : Text.IsInline t) : Text.IsInline (s ++ t) := by
  rw [Text.IsInline, String.toList_append, List.mem_append, List.mem_append, not_or, not_or]
  exact ⟨⟨hs.1, ht.1⟩, hs.2, ht.2⟩

theorem Text.isInline_toString (n : Nat) : Text.IsInline (toString n) := by
  have hdigit : ∀ c ∈ (toString n).toList, c.isDigit = true := by
    intro c hc
    have hdigits : (toString n).toList = Nat.toDigits 10 n := String.toList_ofList
    rw [hdigits] at hc
    exact Nat.isDigit_of_mem_toDigits (by decide) (by decide) hc
  exact ⟨fun h => absurd (hdigit _ h) (by decide), fun h => absurd (hdigit _ h) (by decide)⟩

/-- A text in colors or not. Colors add codes to it, and it has one line in both forms. -/
structure Styled (text : Bool → String) : Prop where
  codes : Style.AddsCodes (text true).toList (text false).toList
  inline : ∀ color, '\n' ∉ (text color).toList

namespace Styled

theorem const {text : String} (h : Text.IsInline text) : Styled fun _ => text where
  codes := Style.addsCodes_self h.1
  inline _ := h.2

theorem append {text text' : Bool → String} (h : Styled text) (h' : Styled text') :
    Styled fun color => text color ++ text' color where
  codes := by
    rw [String.toList_append, String.toList_append]
    exact h.codes.append h'.codes
  inline color := by
    rw [String.toList_append, List.mem_append, not_or]
    exact ⟨h.inline color, h'.inline color⟩

theorem paint {text : String} (s : Style) (h : Text.IsInline text) : Styled fun color => s.paint color text where
  codes := by
    have hpainted : (s.paint true text).toList = s.start ++ text.toList ++ Style.reset := by
      rw [Style.paint, if_pos rfl, String.toList_ofList, Style.restart_eq_self h.1]
    rw [hpainted]
    have hcodes := (s.addsCodes_start.append (Style.addsCodes_self h.1)).append Style.addsCodes_reset
    simpa [Style.paint] using hcodes
  inline color := by
    have hstart : '\n' ∉ s.start := by cases s <;> decide
    have hreset : '\n' ∉ Style.reset := by decide
    cases color with
    | false => exact h.2
    | true => simp [Style.paint, Style.restart_eq_self h.1, hstart, h.2, hreset]

end Styled

end BundleCheck
