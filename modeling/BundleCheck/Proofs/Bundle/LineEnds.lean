import BundleCheck.Bundle.Basic
import BundleCheck.Proofs.Text.Lines

/-!
# Line ends

A line can end with a line feed alone or with a carriage return before it, and the last line can end with nothing.
A text has the same lines in each of these styles, unless a carriage return before a line feed belonged to the style
that it was in: of two such returns only one is taken off. What is read of a text is told by its lines, so the style
makes no difference to a document either.
-/

namespace BundleCheck

namespace Text

/-- The text with a carriage return put before every line feed. -/
def withReturns (text : List Char) : List Char :=
  text.flatMap fun c => if c = '\n' then ['\r', '\n'] else [c]

variable {piece rest text : List Char}

/-- A line feed behind the last line is no part of a line and starts none. -/
theorem lines_concat_newline (hne : text ≠ []) (hlast : text.getLast? ≠ some '\n') :
    lines (text ++ ['\n']) = lines text := by
  induction text using line_induction with
  | last piece hpiece => rw [lines_append_newline hpiece, lines, lines, pieces_of_not_mem hpiece hne]; rfl
  | line piece rest hpiece ih =>
    have hend : rest.getLast?.getD '\n' ≠ '\n' := by simpa [List.getLast?_append, List.getLast?_cons] using hlast
    have hrest : rest ≠ [] := by
      rintro rfl
      exact hend rfl
    have hopen : rest.getLast? ≠ some '\n' := fun h => hend (by rw [h]; rfl)
    rw [List.append_assoc, List.cons_append, lines_append_newline hpiece, lines_append_newline hpiece, ih hrest hopen]

/-! ### Carriage returns -/

theorem withReturns_of_not_mem (h : '\n' ∉ piece) : withReturns piece = piece := by
  induction piece with
  | nil => rfl
  | cons c piece ih =>
    rw [List.mem_cons, not_or] at h
    rw [withReturns, List.flatMap_cons, if_neg (Ne.symm h.1), List.singleton_append]
    exact congrArg (c :: ·) (ih h.2)

theorem withReturns_append_newline (h : '\n' ∉ piece) (rest : List Char) :
    withReturns (piece ++ '\n' :: rest) = (piece ++ ['\r']) ++ '\n' :: withReturns rest := by
  have hpiece := withReturns_of_not_mem h
  rw [withReturns] at hpiece ⊢
  rw [List.flatMap_append, hpiece, List.flatMap_cons, if_pos rfl, List.append_assoc]
  rfl

/-- A line in a text ends with a carriage return exactly if a line feed follows one there. -/
theorem return_newline_infix_iff (h : '\n' ∉ piece) :
    ['\r', '\n'] <:+: piece ++ '\n' :: rest ↔ piece.getLast? = some '\r' ∨ ['\r', '\n'] <:+: rest := by
  induction piece with
  | nil => simp [List.infix_cons_iff]
  | cons c piece ih =>
    obtain ⟨-, hpiece⟩ := not_or.1 (mt List.mem_cons.2 h)
    have hhead : '\r' = c ∧ ['\n'] <+: piece ++ '\n' :: rest ∨ piece.getLast? = some '\r' ↔
        (c :: piece).getLast? = some '\r' := by
      cases piece with
      | nil => simp [eq_comm]
      | cons d piece =>
        have hd : '\n' ≠ d := fun h => hpiece (h ▸ List.mem_cons_self)
        simp [hd, List.getLast?_cons_cons]
    rw [List.cons_append, List.infix_cons_iff, ih hpiece, List.cons_prefix_cons, ← or_assoc, hhead]

theorem lines_withReturns_iff : lines (withReturns text) = lines text ↔ ¬ ['\r', '\n'] <:+: text := by
  induction text using line_induction with
  | last piece hpiece =>
    rw [withReturns_of_not_mem hpiece]
    refine iff_of_true rfl fun h => hpiece (h.subset (by simp))
  | line piece rest hpiece ih =>
    have hreturned : '\n' ∉ piece ++ ['\r'] := by simp [hpiece]
    rw [withReturns_append_newline hpiece, lines_append_newline hreturned, lines_append_newline hpiece,
      dropReturn_concat_return, return_newline_infix_iff hpiece, not_or, ← ih, List.cons.injEq, eq_comm (a := piece),
      dropReturn_eq_self_iff]

end Text

namespace Bundle

theorem read_congr (s : Settings) (b : Bundle) {text text' : String}
    (h : Text.lines text'.toList = Text.lines text.toList) : b.read s text' = b.read s text := by
  rw [read, read, Reading.ofText, Reading.ofText, h]

/-- A text without carriage returns at its line ends is read the same when it gets them, and a last line is read
the same when it gets a line feed: with the same success or stop, the same content and the same report. -/
theorem read_in_any_line_end_style (s : Settings) (b : Bundle) :
    (∀ text : String, ¬ ['\r', '\n'] <:+: text.toList →
      b.read s (String.ofList (Text.withReturns text.toList)) = b.read s text) ∧
    ∀ text : String, text ≠ "" → text.toList.getLast? ≠ some '\n' → b.read s (text ++ "\n") = b.read s text := by
  refine ⟨fun text hreturns => read_congr s b ?_, fun text hne hlast => read_congr s b ?_⟩
  · rw [String.toList_ofList]
    exact Text.lines_withReturns_iff.2 hreturns
  · rw [String.toList_append]
    exact Text.lines_concat_newline (mt String.toList_eq_nil_iff.1 hne) hlast

/-- The first text has a return inside a line, a blank line and a line that cannot be read, and the second has a
return for the end of its last line. -/
theorem read_in_any_line_end_style_stray_returns :
    let text := "a = 1\n\nb\r = 2\na = 3\nc"
    let returned := "a = 1\r\n\r\nb\r = 2\r\na = 3\r\nc"
    let unended := "# ==> b =\n\r\na = 1\r"
    ¬ ['\r', '\n'] <:+: text.toList ∧ String.ofList (Text.withReturns text.toList) = returned ∧
      Bundle.empty.read .standard returned = Bundle.empty.read .standard text ∧
      (Bundle.empty.read .standard text).2 = some ⟨5, .noSeparator⟩ ∧
      Bundle.empty.read .standard (unended ++ "\n") = Bundle.empty.read .standard unended := by
  intro text returned unended
  have hreturns : ¬ ['\r', '\n'] <:+: text.toList := by decide +kernel
  have hreturned : String.ofList (Text.withReturns text.toList) = returned := by decide +kernel
  have hstop : (Bundle.empty.read .standard text).2 = some ⟨5, .noSeparator⟩ := by decide +kernel
  obtain ⟨hstyle, hopen⟩ := read_in_any_line_end_style .standard .empty
  exact ⟨hreturns, hreturned, hreturned ▸ hstyle text hreturns, hstop,
    hopen unended (by decide) (by decide +kernel)⟩

end Bundle

end BundleCheck
