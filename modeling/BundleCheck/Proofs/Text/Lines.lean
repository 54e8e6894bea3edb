import BundleCheck.Text.Basic

/-!
# Lines of a joined text

Joining lines with line feeds and cutting the text again gives the lines back, up to two losses: an empty
last line leaves no trace, and each line loses a carriage return at its end. A text that is cut behind one of its
lines has the lines up to there. What is said of all texts can be shown line by line.
-/

namespace BundleCheck.Text

/-! ### Pieces -/

theorem pieces_append_newline {piece : List Char} (h : '\n' ∉ piece) (rest : List Char) :
    pieces (piece ++ '\n' :: rest) = piece :: pieces rest := by
  induction piece with
  | nil => simp [pieces]
  | cons c piece ih =>
    rw [List.mem_cons, not_or] at h
    have hc : c ≠ '\n' := fun e => h.1 e.symm
    rw [List.cons_append, pieces, if_neg hc, ih h.2]

theorem pieces_of_not_mem {piece : List Char} (h : '\n' ∉ piece) (hne : piece ≠ []) :
    pieces piece = [piece] := by
  induction piece with
  | nil => exact absurd rfl hne
  | cons c piece ih =>
    rw [List.mem_cons, not_or] at h
    have hc : c ≠ '\n' := fun e => h.1 e.symm
    rw [pieces, if_neg hc]
    cases piece with
    | nil => rfl
    | cons d piece => rw [ih h.2 (by simp)]

theorem not_mem_of_mem_pieces {text piece : List Char} (h : piece ∈ pieces text) : '\n' ∉ piece := by
  induction text generalizing piece with
  | nil => cases h
  | cons c rest ih =>
    rw [pieces] at h
    split at h
    · rcases List.mem_cons.1 h with rfl | h
      · simp
      · exact ih h
    · rename_i hc
      split at h
      · rw [List.mem_singleton.1 h, List.mem_singleton]
        exact fun e => hc e.symm
      · rename_i head others hrest
        have hhead := @ih head (by rw [hrest]; exact List.mem_cons_self)
        rcases List.mem_cons.1 h with rfl | h
        · rw [List.mem_cons, not_or]
          exact ⟨fun e => hc e.symm, hhead⟩
        · exact ih (by rw [hrest]; exact List.mem_cons_of_mem _ h)

/-- Lines that are joined come apart again, without the last if that is empty. -/
theorem pieces_intercalate {lines : List (List Char)} (h : ∀ l ∈ lines, '\n' ∉ l) :
    pieces (['\n'].intercalate lines) =
      if lines.getLast? = some [] then lines.dropLast else lines := by
  induction lines with
  | nil => rfl
  | cons line rest ih =>
    have hline := h line List.mem_cons_self
    have hrest := ih fun l hl => h l (List.mem_cons_of_mem _ hl)
    cases rest with
    | nil =>
      rw [List.intercalate_singleton]
      by_cases hempty : line = []
      · simp [hempty, pieces]
      · rw [pieces_of_not_mem hline hempty]
        simp [hempty]
    | cons next others =>
      rw [List.intercalate_cons_cons, List.append_assoc, List.singleton_append,
        pieces_append_newline hline, hrest, List.getLast?_cons_cons, List.dropLast_cons_cons]
      split <;> rfl

/-- Of two sequences of equally many lines, only the same gives the same text. -/
theorem eq_of_intercalate_eq {xs ys : List (List Char)} (hx : ∀ l ∈ xs, '\n' ∉ l) (hy : ∀ l ∈ ys, '\n' ∉ l)
    (hlength : xs.length = ys.length) (h : ['\n'].intercalate xs = ['\n'].intercalate ys) : xs = ys := by
  have hpieces := congrArg pieces h
  rw [pieces_intercalate hx, pieces_intercalate hy] at hpieces
  have hpositive : ∀ {l : List (List Char)}, l.getLast? = some [] → 0 < l.length := by
    intro l hl
    rw [List.length_pos_iff]
    rintro rfl
    cases hl
  by_cases hxs : xs.getLast? = some []
  · by_cases hys : ys.getLast? = some []
    · rw [if_pos hxs, if_pos hys] at hpieces
      obtain ⟨front, rfl⟩ := List.getLast?_eq_some_iff.1 hxs
      obtain ⟨front', rfl⟩ := List.getLast?_eq_some_iff.1 hys
      rw [List.dropLast_concat, List.dropLast_concat] at hpieces
      rw [hpieces]
    · rw [if_pos hxs, if_neg hys] at hpieces
      have hshort := congrArg List.length hpieces
      have := hpositive hxs
      rw [List.length_dropLast] at hshort
      omega
  · by_cases hys : ys.getLast? = some []
    · rw [if_neg hxs, if_pos hys] at hpieces
      have hshort := congrArg List.length hpieces
      have := hpositive hys
      rw [List.length_dropLast] at hshort
      omega
    · rwa [if_neg hxs, if_neg hys] at hpieces

/-! ### Carriage returns -/

theorem dropReturn_append {tail : List Char} (h : tail ≠ []) (front : List Char) :
    dropReturn (front ++ tail) = front ++ dropReturn tail := by
  induction front with
  | nil => rfl
  | cons c front ih =>
    cases hfront : front ++ tail with
    | nil => exact absurd (List.append_eq_nil_iff.1 hfront).2 h
    | cons d rest =>
      rw [List.cons_append, List.cons_append, hfront, dropReturn, ← hfront, ih]
      simp

theorem dropReturn_concat_return (front : List Char) : dropReturn (front ++ ['\r']) = front := by
  rw [dropReturn_append (by simp), dropReturn, List.append_nil]

theorem dropReturn_eq_self {line : List Char} (h : line.getLast? ≠ some '\r') :
    dropReturn line = line := by
  cases hlast : line.getLast? with
  | none => rw [List.getLast?_eq_none_iff.1 hlast]; rfl
  | some c =>
    obtain ⟨front, rfl⟩ := List.getLast?_eq_some_iff.1 hlast
    have hc : c ≠ '\r' := fun e => h (by rw [hlast, e])
    rw [dropReturn_append (by simp), dropReturn, dropReturn]
    exact fun e => absurd e hc

theorem dropReturn_eq_self_iff {line : List Char} :
    dropReturn line = line ↔ line.getLast? ≠ some '\r' := by
  refine ⟨fun h hlast => ?_, dropReturn_eq_self⟩
  obtain ⟨front, rfl⟩ := List.getLast?_eq_some_iff.1 hlast
  rw [dropReturn_concat_return] at h
  have := congrArg List.length h
  simp at this

theorem dropReturn_prefix_self (line : List Char) : dropReturn line <+: line := by
  by_cases h : line.getLast? = some '\r'
  · obtain ⟨front, rfl⟩ := List.getLast?_eq_some_iff.1 h
    rw [dropReturn_concat_return]
    exact List.prefix_append front _
  · exact ⟨[], by rw [List.append_nil, dropReturn_eq_self h]⟩

/-! ### The first lines -/

/-- The text up to the end of its line with the given number. -/
def firstLines : Nat → List Char → List Char
  | 0, _ => []
  | _ + 1, [] => []
  | n + 1, c :: rest => c :: firstLines (if c = '\n' then n else n + 1) rest

theorem pieces_firstLines (n : Nat) (text : List Char) : pieces (firstLines n text) = (pieces text).take n := by
  induction text generalizing n with
  | nil => cases n <;> rfl
  | cons c rest ih =>
    cases n with
    | zero => rfl
    | succ n =>
      rw [firstLines, pieces, pieces]
      by_cases hc : c = '\n'
      · rw [if_pos hc, if_pos hc, if_pos hc, ih, List.take_succ_cons]
      · rw [if_neg hc, if_neg hc, if_neg hc, ih]
        cases pieces rest with
        | nil => simp
        | cons piece others => rfl

theorem lines_firstLines (n : Nat) (text : List Char) : lines (firstLines n text) = (lines text).take n := by
  rw [lines, lines, pieces_firstLines, List.map_take]

/-! ### Line by line -/

/-- A text is a line without a line feed, or such a line with a line feed and a text behind it. -/
theorem line_induction {motive : List Char → Prop} (last : ∀ piece, '\n' ∉ piece → motive piece)
    (line : ∀ piece rest, '\n' ∉ piece → motive rest → motive (piece ++ '\n' :: rest)) (text : List Char) :
    motive text := by
  -- What has been read of a line is carried along until its line feed comes.
  have hfront : ∀ text piece : List Char, '\n' ∉ piece → motive (piece ++ text) := by
    intro text
    induction text with
    | nil =>
      intro piece hpiece
      rw [List.append_nil]
      exact last piece hpiece
    | cons c rest ih =>
      intro piece hpiece
      by_cases hc : c = '\n'
      · rw [hc]
        exact line piece rest hpiece (ih [] List.not_mem_nil)
      · have hlonger : '\n' ∉ piece ++ [c] := by simp [hpiece, Ne.symm hc]
        have hread := ih (piece ++ [c]) hlonger
        rwa [List.append_assoc, List.singleton_append] at hread
  exact hfront text [] List.not_mem_nil

theorem lines_append_newline {piece : List Char} (h : '\n' ∉ piece) (rest : List Char) :
    lines (piece ++ '\n' :: rest) = dropReturn piece :: lines rest := by
  rw [lines, pieces_append_newline h, List.map_cons, lines]

/-! ### Lines without terminators -/

theorem not_mem_of_mem_lines {text line : List Char} (h : line ∈ lines text) : '\n' ∉ line := by
  obtain ⟨piece, hpiece, rfl⟩ := List.mem_map.1 h
  exact fun hmem => not_mem_of_mem_pieces hpiece ((dropReturn_prefix_self piece).subset hmem)

end BundleCheck.Text
