import BundleCheck.Pattern.Capture

/-!
# The meaning of a pattern

What a match is can be said without the search, by recursion on the pattern. A pattern reads the text between
two cursors, and a cursor carries the character before it besides the text ahead, since the conditions on a place
look both ways. `Expression.Matches` says the same of a part of a text, by what stands before and behind it.
Greedy and lazy repetitions read alike: which of the matches at a place is taken is no matter of meaning.
-/

namespace BundleCheck.Pattern

/-! ### Cursors -/

namespace Cursor

/-- The given characters stand between two cursors. -/
def Passes (cs : List Char) (x y : Cursor) : Prop :=
  x.ahead = cs ++ y.ahead ∧ y.before = cs.getLast?.or x.before

/-- One character stands between two cursors, and it is in the set. -/
def Takes (s : CharSet) (x y : Cursor) : Prop := ∃ c, s.contains c = true ∧ Passes [c] x y

/-- One cursor is reached from another in so many rounds. -/
def Rounds (R : Cursor → Cursor → Prop) : Nat → Cursor → Cursor → Prop
  | 0, x, y => x = y
  | n + 1, x, y => ∃ z, R x z ∧ Rounds R n z y

variable {x y z : Cursor} {R : Cursor → Cursor → Prop} {cs ds : List Char}

theorem passes_nil : Passes [] = Eq := by
  funext x y
  rw [eq_iff_iff]
  constructor
  · rintro ⟨hahead, hbefore⟩
    cases x
    cases y
    rw [Cursor.mk.injEq]
    exact ⟨hbefore.symm, hahead⟩
  · rintro rfl
    exact ⟨rfl, rfl⟩

theorem passes_append_iff : Passes (cs ++ ds) x z ↔ ∃ y, Passes cs x y ∧ Passes ds y z := by
  constructor
  · rintro ⟨hahead, hbefore⟩
    refine ⟨⟨cs.getLast?.or x.before, ds ++ z.ahead⟩, ⟨?_, rfl⟩, rfl, ?_⟩
    · rw [hahead, List.append_assoc]
    · rw [hbefore, List.getLast?_append, Option.or_assoc]
  · rintro ⟨y, hx, hy⟩
    refine ⟨?_, ?_⟩
    · rw [hx.1, hy.1, List.append_assoc]
    · rw [hy.2, hx.2, List.getLast?_append, Option.or_assoc]

theorem passes_singleton_iff {c : Char} : Passes [c] x y ↔ x.ahead.head? = some c ∧ x.next? = some y := by
  obtain ⟨before, ahead⟩ := x
  obtain ⟨before', ahead'⟩ := y
  cases ahead with
  | nil => simp [Passes, next?]
  | cons d rest =>
    simp only [Passes, next?, List.singleton_append, List.cons.injEq, List.getLast?_singleton, Option.some_or,
      List.head?_cons, Option.some.injEq, Cursor.mk.injEq]
    grind

theorem takes_single (c : Char) : Takes (.single c) = Passes [c] := by
  funext x y
  simp only [Takes, CharSet.contains_single, exists_eq_left]

theorem takes_iff {s : CharSet} : Takes s x y ↔ x.ahead.head?.any s.contains = true ∧ x.next? = some y := by
  simp only [Takes, passes_singleton_iff]
  cases x.ahead.head? <;> simp [← and_assoc]

theorem rounds_add_iff {m n : Nat} : Rounds R (m + n) x z ↔ ∃ y, Rounds R m x y ∧ Rounds R n y z := by
  induction m generalizing x with
  | zero => simp [Rounds]
  | succ m ih =>
    rw [Nat.add_right_comm, Rounds]
    simp only [ih, Rounds]
    grind

theorem rounds_takes_iff {s : CharSet} {n : Nat} :
    Rounds (Takes s) n x y ↔ ∃ cs, cs.length = n ∧ (∀ c ∈ cs, s.contains c = true) ∧ Passes cs x y := by
  induction n generalizing x with
  | zero =>
    simp only [Rounds, List.length_eq_zero_iff, exists_eq_left, List.not_mem_nil, false_imp_iff, implies_true,
      true_and, passes_nil]
  | succ n ih =>
    simp only [Rounds, ih]
    constructor
    · rintro ⟨z, ⟨c, hc, hpass⟩, cs, rfl, hcs, hrest⟩
      refine ⟨c :: cs, rfl, List.forall_mem_cons.2 ⟨hc, hcs⟩, ?_⟩
      exact passes_append_iff.2 ⟨z, hpass, hrest⟩
    · rintro ⟨cs, hlength, hcs, hpass⟩
      obtain ⟨c, cs, rfl⟩ := List.exists_cons_of_length_eq_add_one hlength
      obtain ⟨hc, hcs⟩ := List.forall_mem_cons.1 hcs
      obtain ⟨z, hfirst, hrest⟩ := passes_append_iff.1 (List.singleton_append ▸ hpass)
      exact ⟨z, ⟨c, hc, hfirst⟩, cs, Nat.succ.inj hlength, hcs, hrest⟩

theorem passes_text_iff {before found after : List Char} :
    Passes cs ⟨before.getLast?, found ++ after⟩ ⟨(before ++ found).getLast?, after⟩ ↔ found = cs := by
  constructor
  · rintro ⟨hahead, -⟩
    exact List.append_cancel_right hahead
  · rintro rfl
    exact ⟨rfl, List.getLast?_append⟩

end Cursor

open Cursor

/-! ### Matches -/

/-- What stands between two cursors is a match. -/
def Expression.Reads : Expression → Cursor → Cursor → Prop
  | .empty, x, y => x = y
  | .word cs, x, y => Passes cs x y
  | .one s, x, y => Takes s x y
  | .at p, x, y => x = y ∧ p.holds x.gap = true
  | .group _ a, x, y => a.Reads x y
  -- A limit below the least number means that number.
  | .repeated _ low high a, x, y => ∃ n, low ≤ n ∧ (∀ h ∈ high, n ≤ max low h) ∧ Rounds a.Reads n x y
  | .seq a b, x, y => ∃ z, a.Reads x z ∧ b.Reads z y
  | .alt a b, x, y => a.Reads x y ∨ b.Reads x y

namespace Expression

variable {a b : Expression} {text before found after : List Char}

theorem Reads.exists_passes {x y : Cursor} (h : a.Reads x y) : ∃ cs, Passes cs x y := by
  induction a generalizing x y with
  | empty =>
    exact ⟨[], by rw [passes_nil]; exact h⟩
  | word cs => exact ⟨cs, h⟩
  | one s =>
    obtain ⟨c, -, hpass⟩ := h
    exact ⟨[c], hpass⟩
  | «at» p =>
    exact ⟨[], by rw [passes_nil]; exact h.1⟩
  | group number a ih => exact ih h
  | repeated greedy low high a ih =>
    obtain ⟨n, -, -, hrounds⟩ := h
    induction n generalizing x with
    | zero => exact ⟨[], by rw [passes_nil]; exact hrounds⟩
    | succ n ihn =>
      obtain ⟨z, hz, hrest⟩ := hrounds
      obtain ⟨cs, hcs⟩ := ih hz
      obtain ⟨ds, hds⟩ := ihn hrest
      exact ⟨cs ++ ds, passes_append_iff.2 ⟨z, hcs, hds⟩⟩
  | seq a b iha ihb =>
    obtain ⟨z, hz, hrest⟩ := h
    obtain ⟨cs, hcs⟩ := iha hz
    obtain ⟨ds, hds⟩ := ihb hrest
    exact ⟨cs ++ ds, passes_append_iff.2 ⟨z, hcs, hds⟩⟩
  | alt a b iha ihb => exact h.elim iha ihb

/-- The pattern matches a part of a text where it stands. -/
def Matches (a : Expression) (before found after : List Char) : Prop :=
  a.Reads ⟨before.getLast?, found ++ after⟩ ⟨(before ++ found).getLast?, after⟩

theorem reads_iff_matches {y : Cursor} : a.Reads ⟨before.getLast?, text⟩ y ↔
    ∃ found, text = found ++ y.ahead ∧ y.before = (before ++ found).getLast? ∧ a.Matches before found y.ahead := by
  constructor
  · intro h
    obtain ⟨found, hahead, hbefore⟩ := h.exists_passes
    rw [← List.getLast?_append] at hbefore
    refine ⟨found, hahead, hbefore, ?_⟩
    rw [Matches, ← hbefore, ← hahead]
    exact h
  · rintro ⟨found, rfl, hbefore, h⟩
    rw [Matches, ← hbefore] at h
    exact h

/-- A part of a text that is a match, before which none begins. -/
structure IsLeftmost (a : Expression) (text before found after : List Char) : Prop where
  text_eq : text = before ++ found ++ after
  isMatch : a.Matches before found after
  leftmost : ∀ before' found' after', text = before' ++ found' ++ after' → a.Matches before' found' after' →
    before.length ≤ before'.length

/-- Some part of the text is a match. -/
def Occurs (a : Expression) (text : List Char) : Prop :=
  ∃ before found after, text = before ++ found ++ after ∧ a.Matches before found after

/-! ### Matches of the several kinds -/

theorem reads_one_iff {s : CharSet} {x y : Cursor} : (one s).Reads x y ↔ Takes s x y := Iff.rfl

theorem reads_at_iff {p : Place} {x y : Cursor} : (Expression.at p).Reads x y ↔ x = y ∧ p.holds x.gap = true := Iff.rfl

theorem matches_one_iff {s : CharSet} : (one s).Matches before found after ↔ ∃ c, s.contains c = true ∧ found = [c] :=
  exists_congr fun _ => and_congr_right fun _ => passes_text_iff

theorem matches_at_iff {p : Place} : (Expression.at p).Matches before found after ↔
    found = [] ∧ p.holds ⟨before.getLast?, after.head?⟩ = true := by
  rw [Matches, Reads, ← passes_nil, passes_text_iff]
  refine and_congr_right ?_
  rintro rfl
  rfl

theorem matches_seq_iff : (seq a b).Matches before found after ↔
    ∃ first second, found = first ++ second ∧ a.Matches before first (second ++ after) ∧
      b.Matches (before ++ first) second after := by
  constructor
  · rintro ⟨⟨last, ahead⟩, hfirst, hsecond⟩
    obtain ⟨first, htext, rfl, hfirst⟩ := reads_iff_matches.1 hfirst
    obtain ⟨second, rfl, -, hsecond⟩ := reads_iff_matches.1 hsecond
    rw [← List.append_assoc] at htext
    exact ⟨first, second, List.append_cancel_right htext, hfirst, hsecond⟩
  · rintro ⟨first, second, rfl, hfirst, hsecond⟩
    refine ⟨⟨(before ++ first).getLast?, second ++ after⟩, ?_, ?_⟩
    · rwa [List.append_assoc]
    · rwa [← List.append_assoc]

/-- A pattern that begins with the start of the text has its matches there. -/
theorem occurs_textStart_seq_iff : (seq (.at .textStart) a).Occurs text ↔
    ∃ found after, text = found ++ after ∧ a.Matches [] found after := by
  simp only [Occurs, matches_seq_iff, matches_at_iff, Place.holds, Option.isNone_iff_eq_none,
    List.getLast?_eq_none_iff]
  constructor
  · rintro ⟨_, _, after, rfl, _, found, rfl, ⟨rfl, rfl⟩, hmatch⟩
    exact ⟨found, after, rfl, hmatch⟩
  · rintro ⟨found, after, rfl, hmatch⟩
    exact ⟨[], found, after, rfl, [], found, rfl, ⟨rfl, rfl⟩, hmatch⟩

theorem matches_seq_textEnd_iff : (seq a (.at .textEnd)).Matches before found after ↔
    a.Matches before found [] ∧ after = [] := by
  simp only [matches_seq_iff, matches_at_iff, Place.holds, Option.isNone_iff_eq_none, List.head?_eq_none_iff]
  constructor
  · rintro ⟨first, _, rfl, hmatch, rfl, rfl⟩
    rw [List.append_nil]
    exact ⟨hmatch, rfl⟩
  · rintro ⟨hmatch, rfl⟩
    exact ⟨found, [], (List.append_nil found).symm, hmatch, rfl, rfl⟩

/-- A set with counts asks for so many characters out of it. -/
theorem matches_repeated_iff {s : CharSet} (ha : a.Reads = Takes s) {greedy : Bool} {low : Nat} {high : Option Nat} :
    (repeated greedy low high a).Matches before found after ↔
      low ≤ found.length ∧ (∀ h ∈ high, found.length ≤ max low h) ∧ ∀ c ∈ found, s.contains c = true := by
  simp only [Matches, Reads, ha, rounds_takes_iff, passes_text_iff]
  constructor
  · rintro ⟨n, hlow, hhigh, cs, rfl, hcs, rfl⟩
    exact ⟨hlow, hhigh, hcs⟩
  · rintro ⟨hlow, hhigh, hfound⟩
    exact ⟨_, hlow, hhigh, found, rfl, hfound, rfl⟩

theorem reads_word_singleton (c : Char) : (word [c]).Reads = Takes (.single c) := by
  rw [takes_single]
  rfl

/-- A character that is to be repeated is found just where there is a row of as many as are asked for. -/
theorem occurs_repeated_iff {c : Char} {greedy : Bool} {low : Nat} {high : Option Nat} :
    (repeated greedy low high (word [c])).Occurs text ↔ List.replicate low c <:+: text := by
  simp only [Occurs, matches_repeated_iff (reads_word_singleton c), CharSet.contains_single]
  constructor
  · rintro ⟨before, found, after, rfl, hlow, -, hall⟩
    obtain ⟨more, hmore⟩ := Nat.exists_eq_add_of_le hlow
    rw [List.eq_replicate_of_mem hall, hmore, ← List.replicate_append_replicate]
    exact ⟨before, List.replicate more c ++ after, by simp only [List.append_assoc]⟩
  · rintro ⟨before, after, rfl⟩
    refine ⟨before, List.replicate low c, after, rfl, ?_, ?_, fun d => List.eq_of_mem_replicate⟩
    · exact Nat.le_of_eq List.length_replicate.symm
    · intro h _
      rw [List.length_replicate]
      exact Nat.le_max_left low h

theorem matches_optional_iff {greedy : Bool} : (repeated greedy 0 (some 1) a).Matches before found after ↔
    found = [] ∨ a.Matches before found after := by
  have hcounts : ∀ n, (0 ≤ n ∧ ∀ h ∈ some 1, n ≤ max 0 h) ↔ n = 0 ∨ n = 1 := by
    intro n
    simp only [Option.mem_some, forall_eq']
    omega
  have hnone : Rounds a.Reads 0 = Passes [] := by
    rw [passes_nil]
    rfl
  have hone : ∀ x y, Rounds a.Reads 1 x y ↔ a.Reads x y := by
    simp [Rounds]
  simp only [Matches, Reads, ← and_assoc, hcounts, or_and_right, exists_or, exists_eq_left, hnone, hone,
    passes_text_iff]

end Expression

end BundleCheck.Pattern
