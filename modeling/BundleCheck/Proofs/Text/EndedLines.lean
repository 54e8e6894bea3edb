import BundleCheck.Proofs.Text.Lines
import Mathlib.Data.List.Basic

/-!
# Lines with their ends

The lines of a text are without what ended them. A line can have ended with a line feed, with a carriage return before
it, and at the end of the text also with a carriage return alone or with nothing. There is just one way to put such
ends behind the lines of a text so that they make up the text again, and no other lines with other ends do.
-/

namespace BundleCheck.Text

/-- What stands behind a line: a carriage return, a line feed, both in this order, or nothing. -/
structure LineEnd where
  hasReturn : Bool
  hasFeed : Bool
deriving DecidableEq, Repr

structure EndedLine where
  line : List Char
  ending : LineEnd
deriving DecidableEq, Repr

namespace EndedLine

/-- The line up to its line feed. -/
def body (l : EndedLine) : List Char := l.line ++ if l.ending.hasReturn then ['\r'] else []

def written (l : EndedLine) : List Char := l.body ++ if l.ending.hasFeed then ['\n'] else []

/-- The line that has the body. -/
def ofBody (piece : List Char) (hasFeed : Bool) : EndedLine :=
  ⟨dropReturn piece, piece.getLast? == some '\r', hasFeed⟩

/-- A carriage return at the end is part of the end, and there is no line feed elsewhere. -/
structure IsCut (l : EndedLine) : Prop where
  feed : '\n' ∉ l.line
  lone : l.ending.hasReturn = false → l.line.getLast? ≠ some '\r'

end EndedLine

/-- The text is made up of the lines with their ends. All lines but the last end with a line feed, and the last is not
empty of both. -/
structure IsMadeOf (text : List Char) (parts : List EndedLine) : Prop where
  eq : text = parts.flatMap EndedLine.written
  cut : ∀ l ∈ parts, l.IsCut
  inner : ∀ l ∈ parts.dropLast, l.ending.hasFeed = true
  last : ∀ l ∈ parts.getLast?, l.written ≠ []

variable {piece rest text : List Char} {l : EndedLine} {parts : List EndedLine}

/-! ### One line -/

namespace EndedLine

theorem body_ofBody (piece : List Char) (hasFeed : Bool) : (ofBody piece hasFeed).body = piece := by
  by_cases h : piece.getLast? = some '\r'
  · obtain ⟨front, hfront⟩ := List.getLast?_eq_some_iff.1 h
    simp only [body, ofBody, hfront, dropReturn_concat_return]
    simp
  · simp [body, ofBody, h, dropReturn_eq_self h]

theorem isCut_ofBody (h : '\n' ∉ piece) (hasFeed : Bool) : (ofBody piece hasFeed).IsCut where
  feed := fun hmem => h ((dropReturn_prefix_self piece).subset hmem)
  lone hreturn := by
    have hlast : piece.getLast? ≠ some '\r' := by simpa [ofBody] using hreturn
    rwa [ofBody, dropReturn_eq_self hlast]

/-- A line that is cut right is told by its body. -/
theorem IsCut.eq_ofBody (h : l.IsCut) : l = ofBody l.body l.ending.hasFeed := by
  obtain ⟨line, hasReturn, hasFeed⟩ := l
  cases hasReturn with
  | true => simp [ofBody, body, dropReturn_concat_return]
  | false =>
    have hline : line.getLast? ≠ some '\r' := h.lone rfl
    simp [ofBody, body, hline, dropReturn_eq_self hline]

theorem IsCut.feed_notMem_body (h : l.IsCut) : '\n' ∉ l.body := by
  rw [body, List.mem_append, not_or]
  refine ⟨h.feed, ?_⟩
  split <;> simp

theorem written_of_hasFeed (h : l.ending.hasFeed = true) : l.written = l.body ++ ['\n'] := by
  rw [written, if_pos h]

theorem written_of_not_hasFeed (h : l.ending.hasFeed = false) : l.written = l.body := by
  rw [written, h, if_neg Bool.false_ne_true, List.append_nil]

end EndedLine

/-! ### Line after line -/

theorem isMadeOf_nil_iff : IsMadeOf text [] ↔ text = [] :=
  ⟨fun h => h.eq, fun h => ⟨h, by simp, by simp, by simp⟩⟩

theorem isMadeOf_cons_iff :
    IsMadeOf text (l :: parts) ↔
      ∃ rest, text = l.written ++ rest ∧ l.IsCut ∧ l.written ≠ [] ∧ (parts ≠ [] → l.ending.hasFeed = true) ∧
        IsMadeOf rest parts := by
  cases parts with
  | nil =>
    constructor
    · intro h
      refine ⟨[], ?_, h.cut l List.mem_cons_self, h.last l rfl, by simp, isMadeOf_nil_iff.2 rfl⟩
      simpa using h.eq
    · intro h
      obtain ⟨rest, heq, hcut, hne, -, hrest⟩ := h
      rw [isMadeOf_nil_iff] at hrest
      exact ⟨by simp [heq, hrest], by simpa using hcut, by simp, by simpa using hne⟩
  | cons next others =>
    constructor
    · intro h
      have hfeed := h.inner l List.mem_cons_self
      refine ⟨_, h.eq, h.cut l List.mem_cons_self, ?_, fun _ => hfeed, rfl, ?_, ?_, h.last⟩
      · simp [EndedLine.written_of_hasFeed hfeed]
      · exact fun m hm => h.cut m (List.mem_cons_of_mem l hm)
      · exact fun m hm => h.inner m (List.mem_cons_of_mem l hm)
    · intro h
      obtain ⟨rest, heq, hcut, -, hfeed, hrest⟩ := h
      refine ⟨?_, ?_, ?_, hrest.last⟩
      · rw [heq, hrest.eq]
        exact List.flatMap_cons.symm
      · exact List.forall_mem_cons.2 ⟨hcut, hrest.cut⟩
      · exact List.forall_mem_cons.2 ⟨hfeed (List.cons_ne_nil next others), hrest.inner⟩

/-- Only the last line can do without a line feed. -/
theorem eq_nil_of_not_hasFeed {others : List EndedLine} (hfeed : l.ending.hasFeed = false)
    (hinner : others ≠ [] → l.ending.hasFeed = true) (hrest : IsMadeOf rest others) : others = [] ∧ rest = [] := by
  have hothers : others = [] := by
    by_contra hne
    rw [hinner hne] at hfeed
    exact Bool.noConfusion hfeed
  rw [hothers] at hrest
  exact ⟨hothers, isMadeOf_nil_iff.1 hrest⟩

theorem isMadeOf_last_iff (h : '\n' ∉ piece) :
    IsMadeOf piece parts ↔ parts = if piece = [] then [] else [.ofBody piece false] := by
  constructor
  · intro hmade
    cases parts with
    | nil => rw [if_pos (isMadeOf_nil_iff.1 hmade)]
    | cons l others =>
      obtain ⟨rest, heq, hcut, hne, hinner, hrest⟩ := isMadeOf_cons_iff.1 hmade
      cases hfeed : l.ending.hasFeed with
      | true =>
        rw [heq, EndedLine.written_of_hasFeed hfeed] at h
        simp at h
      | false =>
        obtain ⟨rfl, rfl⟩ := eq_nil_of_not_hasFeed hfeed hinner hrest
        rw [EndedLine.written_of_not_hasFeed hfeed] at heq hne
        rw [List.append_nil] at heq
        rw [heq, if_neg hne, hcut.eq_ofBody, EndedLine.body_ofBody, hfeed]
  · intro hparts
    by_cases hempty : piece = []
    · rw [hparts, if_pos hempty]
      exact isMadeOf_nil_iff.2 hempty
    · have hwritten : (EndedLine.ofBody piece false).written = piece := by
        rw [EndedLine.written_of_not_hasFeed rfl, EndedLine.body_ofBody]
      rw [hparts, if_neg hempty]
      refine isMadeOf_cons_iff.2 ⟨[], ?_, EndedLine.isCut_ofBody h false, ?_, ?_, isMadeOf_nil_iff.2 rfl⟩
      · rw [hwritten, List.append_nil]
      · rwa [hwritten]
      · simp

theorem isMadeOf_line_iff (h : '\n' ∉ piece) :
    IsMadeOf (piece ++ '\n' :: rest) parts ↔ ∃ others, parts = .ofBody piece true :: others ∧ IsMadeOf rest others := by
  constructor
  · intro hmade
    cases parts with
    | nil => simp [isMadeOf_nil_iff] at hmade
    | cons l others =>
      obtain ⟨rest', heq, hcut, -, hinner, hrest⟩ := isMadeOf_cons_iff.1 hmade
      cases hfeed : l.ending.hasFeed with
      | true =>
        rw [EndedLine.written_of_hasFeed hfeed, List.append_assoc, List.singleton_append] at heq
        have hpieces := congrArg pieces heq
        rw [pieces_append_newline h, pieces_append_newline hcut.feed_notMem_body] at hpieces
        have hbody : piece = l.body := (List.cons.inj hpieces).1
        rw [hbody] at heq ⊢
        have hbehind : rest = rest' := (List.cons.inj (List.append_cancel_left heq)).2
        refine ⟨others, ?_, hbehind ▸ hrest⟩
        rw [← hfeed, ← hcut.eq_ofBody]
      | false =>
        -- The line feed would have to stand in the body.
        obtain ⟨rfl, rfl⟩ := eq_nil_of_not_hasFeed hfeed hinner hrest
        rw [EndedLine.written_of_not_hasFeed hfeed, List.append_nil] at heq
        have hmem := hcut.feed_notMem_body
        rw [← heq] at hmem
        simp at hmem
  · intro h'
    obtain ⟨others, hparts, hrest⟩ := h'
    have hwritten : (EndedLine.ofBody piece true).written = piece ++ ['\n'] := by
      rw [EndedLine.written_of_hasFeed rfl, EndedLine.body_ofBody]
    rw [hparts]
    refine isMadeOf_cons_iff.2 ⟨rest, ?_, EndedLine.isCut_ofBody h true, ?_, fun _ => rfl, hrest⟩
    · rw [hwritten, List.append_assoc, List.singleton_append]
    · simp [hwritten]

/-- A line for every line feed, and one for what stands behind the last. -/
theorem length_lines (text : List Char) :
    (lines text).length = text.count '\n' + if text ≠ [] ∧ text.getLast? ≠ some '\n' then 1 else 0 := by
  induction text using line_induction with
  | last piece hpiece =>
    rw [List.count_eq_zero.2 hpiece]
    by_cases hempty : piece = []
    · simp [hempty, lines, pieces]
    · have hlast : piece.getLast? ≠ some '\n' := fun h => hpiece (List.mem_of_getLast? h)
      rw [lines, pieces_of_not_mem hpiece hempty, if_pos ⟨hempty, hlast⟩]
      rfl
  | line piece rest hpiece ih =>
    have hopen : (piece ++ '\n' :: rest ≠ [] ∧ (piece ++ '\n' :: rest).getLast? ≠ some '\n') ↔
        (rest ≠ [] ∧ rest.getLast? ≠ some '\n') := by
      cases rest with
      | nil => simp
      | cons c rest => simp [List.getLast?_append, List.getLast?_cons_cons]
    rw [lines_append_newline hpiece, List.length_cons, ih, List.count_append, List.count_eq_zero.2 hpiece,
      List.count_cons_self, if_congr hopen (Eq.refl 1) (Eq.refl 0)]
    omega

/-- The lines of a text are those from which it can be made up by putting ends behind them, and how that is done is
told by the text. -/
theorem lines_lose_only_ends (text : List Char) :
    (∃ parts, parts.map EndedLine.line = lines text ∧ ∀ parts', IsMadeOf text parts' ↔ parts' = parts) ∧
    (lines text).length = text.count '\n' + if text ≠ [] ∧ text.getLast? ≠ some '\n' then 1 else 0 := by
  refine ⟨?_, length_lines text⟩
  induction text using line_induction with
  | last piece hpiece =>
    refine ⟨_, ?_, fun parts => isMadeOf_last_iff hpiece⟩
    by_cases hempty : piece = []
    · simp [hempty, lines, pieces]
    · rw [if_neg hempty, lines, pieces_of_not_mem hpiece hempty]
      rfl
  | line piece rest hpiece ih =>
    obtain ⟨parts, hlines, hunique⟩ := ih
    refine ⟨.ofBody piece true :: parts, ?_, fun parts' => ?_⟩
    · rw [lines_append_newline hpiece, List.map_cons, hlines]
      rfl
    · rw [isMadeOf_line_iff hpiece]
      constructor
      · intro h
        obtain ⟨others, hparts, hothers⟩ := h
        rw [hparts, (hunique others).1 hothers]
      · intro hparts
        exact ⟨parts, hparts, (hunique parts).2 rfl⟩

/-- Returns that are no ends stay in the lines. -/
example : lines "\ra\r\r\n\nb\r".toList = ["\ra\r".toList, [], ['b']] := by decide

end BundleCheck.Text
