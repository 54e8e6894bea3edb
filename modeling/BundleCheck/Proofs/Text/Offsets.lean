import BundleCheck.Text.Offset
import Mathlib.Data.List.Infix

/-!
# Where a word is found

A search for a word that goes on behind what it has found may miss an occurrence that overlaps one before. It cannot
if the first character of the word does not come again in it. Then the offsets are those of all occurrences, in
the order of the text, and the search need not remember what it skips.
-/

namespace BundleCheck.Text

variable {w : Char} {tail text : List Char} {start skipped offset : Nat}

/-- Characters that cannot begin the word may be skipped or not. -/
theorem offsetsFrom_eq_of_skipped (h : ∀ c ∈ text.take skipped, c ≠ w) :
    offsetsFrom (w :: tail) start skipped text = offsetsFrom (w :: tail) start 0 text := by
  induction text generalizing start skipped with
  | nil => rw [offsetsFrom, offsetsFrom]
  | cons c rest ih =>
    cases skipped with
    | zero => rfl
    | succ skipped =>
      rw [List.take_succ_cons, List.forall_mem_cons] at h
      have hword : (w :: tail).isPrefixOf (c :: rest) = false := by
        rw [List.isPrefixOf_cons_cons, beq_eq_false_iff_ne.2 h.1.symm, Bool.false_and]
      rw [offsetsFrom, offsetsFrom, hword, if_neg Bool.false_ne_true, ih h.2]

/-- The search meets one character after the other. -/
theorem offsetsFrom_cons (hw : w ∉ tail) (c : Char) (rest : List Char) :
    offsetsFrom (w :: tail) start 0 (c :: rest) =
      (if w :: tail <+: c :: rest then [start] else []) ++ offsetsFrom (w :: tail) (start + c.utf8Size) 0 rest := by
  rw [offsetsFrom]
  by_cases hword : w :: tail <+: c :: rest
  · rw [if_pos (List.isPrefixOf_iff_prefix.2 hword), if_pos hword]
    obtain ⟨after, hafter⟩ := hword
    obtain ⟨rfl, rfl⟩ := List.cons.inj hafter
    have hskipped : ∀ d ∈ (tail ++ after).take tail.length, d ≠ w := by
      rw [List.take_left]
      exact fun d hd => ne_of_mem_of_not_mem hd hw
    exact congrArg (start :: ·) (offsetsFrom_eq_of_skipped hskipped)
  · rw [if_neg (mt List.isPrefixOf_iff_prefix.1 hword), if_neg hword]
    rfl

theorem mem_offsetsFrom_iff (hw : w ∉ tail) :
    offset ∈ offsetsFrom (w :: tail) start 0 text ↔
      ∃ front after, text = front ++ (w :: tail ++ after) ∧ offset = start + byteLength front := by
  induction text generalizing start with
  | nil => simp [offsetsFrom]
  | cons c rest ih =>
    rw [offsetsFrom_cons hw, List.mem_append, ih]
    constructor
    · rintro (h | ⟨front, after, rfl, rfl⟩)
      · split at h
        · rename_i hword
          obtain ⟨after, hafter⟩ := hword
          exact ⟨[], after, hafter.symm, List.mem_singleton.1 h⟩
        · cases h
      · exact ⟨c :: front, after, rfl, by rw [byteLength_cons, Nat.add_assoc]⟩
    · rintro ⟨front, after, htext, rfl⟩
      cases front with
      | nil => exact .inl (by rw [if_pos ⟨after, htext.symm⟩]; exact List.mem_singleton_self _)
      | cons d front =>
        obtain ⟨rfl, hrest⟩ := List.cons.inj htext
        exact .inr ⟨front, after, hrest, by rw [byteLength_cons, Nat.add_assoc]⟩

theorem mem_offsets_iff (hw : w ∉ tail) : offset ∈ offsets (w :: tail) text ↔
    ∃ front after, text = front ++ (w :: tail ++ after) ∧ offset = byteLength front := by
  rw [offsets, mem_offsetsFrom_iff hw]
  simp only [Nat.zero_add]

/-- Offsets come in their order, and none comes twice. -/
theorem pairwise_offsets (hw : w ∉ tail) (text : List Char) : (offsets (w :: tail) text).Pairwise (· < ·) := by
  have hlater : ∀ start, (offsetsFrom (w :: tail) start 0 text).Pairwise (· < ·) := by
    induction text with
    | nil => exact fun start => .nil
    | cons c rest ih =>
      intro start
      rw [offsetsFrom_cons hw, List.pairwise_append]
      refine ⟨?_, ih _, ?_⟩
      · split
        · exact List.pairwise_singleton _ _
        · exact .nil
      · intro first hfirst offset hoffset
        split at hfirst
        · obtain ⟨front, -, -, rfl⟩ := (mem_offsetsFrom_iff hw).1 hoffset
          rw [List.mem_singleton.1 hfirst, Nat.add_assoc]
          exact Nat.lt_add_of_pos_right (Nat.add_pos_left c.utf8Size_pos _)
        · cases hfirst
  exact hlater 0

/-- Of two beginnings of a text, the longer one has the greater offset. -/
theorem byteLength_lt_of_prefix {front front' : List Char} (h : front <+: front') (hlt : front.length < front'.length) :
    byteLength front < byteLength front' := by
  obtain ⟨rest, rfl⟩ := h
  cases rest with
  | nil =>
    rw [List.append_nil] at hlt
    exact absurd hlt (Nat.lt_irrefl _)
  | cons c rest =>
    rw [byteLength_append, byteLength_cons]
    exact Nat.lt_add_of_pos_right (Nat.add_pos_left c.utf8Size_pos _)

end BundleCheck.Text
