import BundleCheck.Proofs.Pattern.Meaning

/-!
# Ways through an outlook

The search does not follow a pattern but its outlook, where the counts are written out and the optional rounds of
a repetition are parts that can be left early. A way through an outlook therefore ends in one of two manners, at
its end or outside the block around it. `Outlook.ways_ofExpression` says that none is left early that belongs to a
whole pattern, and that it passes what the pattern reads. The search tries no round that passes nothing unless it
is the last; `Way.exists_ends_times_succ_iff` and `Way.exists_ends_times_iff` say that nothing is missed by that.
-/

namespace BundleCheck.Pattern

open Cursor

/-- The ways from one cursor to another that come to the end of something, and those that leave it early. -/
abbrev Way := Bool → Cursor → Cursor → Prop

/-- From a cursor on, the match can end before so many characters. -/
abbrev Prospect := Cursor → Nat → Prop

namespace Way

/-- A way that cannot be left. -/
def straight (R : Cursor → Cursor → Prop) : Way := fun out x y => out = false ∧ R x y

/-- Leaving at once. -/
def leaving : Way := fun out x y => out = true ∧ x = y

def either (V W : Way) : Way := fun out x y => V out x y ∨ W out x y

/-- A number of rounds that is one of those asked for. -/
def counted (R : Cursor → Cursor → Prop) (p : Nat → Prop) : Way := straight fun x y => ∃ n, p n ∧ Rounds R n x y

def andThen (V W : Way) : Way := fun out x y => (out = true ∧ V true x y) ∨ ∃ z, V false x z ∧ W out z y

def times (V : Way) : Nat → Way
  | 0 => straight Eq
  | n + 1 => V.andThen (V.times n)

/-- Once or more. -/
def again (V : Way) : Way := fun out x y => ∃ n, V.times (n + 1) out x y

/-- How the match can end that goes on behind the way, and where it has been left. -/
def ends (V : Way) (behind outside : Prospect) : Prospect := fun x k =>
  (∃ y, V false x y ∧ behind y k) ∨ ∃ y, V true x y ∧ outside y k

variable {U V W : Way} {R S : Cursor → Cursor → Prop}

theorem andThen_assoc : (U.andThen V).andThen W = U.andThen (V.andThen W) := by
  funext out x y
  simp only [andThen, eq_iff_iff]
  grind

theorem straight_andThen : (straight R).andThen (straight S) = straight fun x y => ∃ z, R x z ∧ S z y := by
  funext out x y
  simp only [andThen, straight, eq_iff_iff]
  grind

theorem eq_andThen : (straight Eq).andThen V = V := by
  funext out x y
  simp [andThen, straight]

theorem andThen_eq : V.andThen (straight Eq) = V := by
  funext out x y
  cases out <;> simp [andThen, straight]

theorem times_one : V.times 1 = V := andThen_eq

theorem times_add (m n : Nat) : V.times (m + n) = (V.times m).andThen (V.times n) := by
  induction m with
  | zero => rw [Nat.zero_add, times, eq_andThen]
  | succ m ih => rw [Nat.add_right_comm, times, ih, times, andThen_assoc]

theorem times_straight (n : Nat) : (straight R).times n = straight (Rounds R n) := by
  induction n with
  | zero => rfl
  | succ n ih => rw [times, ih, straight_andThen]; rfl

theorem counted_congr {p q : Nat → Prop} (h : ∀ n, p n ↔ q n) : counted R p = counted R q := by
  rw [funext fun n => propext (h n)]

theorem counted_andThen (p q : Nat → Prop) :
    (counted R p).andThen (counted R q) = counted R fun n => ∃ i j, n = i + j ∧ p i ∧ q j := by
  rw [counted, counted, straight_andThen, counted]
  congr 1
  funext x y
  rw [eq_iff_iff]
  constructor
  · rintro ⟨z, ⟨i, hi, hx⟩, j, hj, hy⟩
    exact ⟨i + j, ⟨i, j, rfl, hi, hj⟩, rounds_add_iff.2 ⟨z, hx, hy⟩⟩
  · rintro ⟨-, ⟨i, j, rfl, hi, hj⟩, h⟩
    obtain ⟨z, hx, hy⟩ := rounds_add_iff.1 h
    exact ⟨z, ⟨i, hi, hx⟩, j, hj, hy⟩

theorem times_either_leaving (n : Nat) (x y : Cursor) :
    (((straight R).either leaving).times n false x y ↔ Rounds R n x y) ∧
      (((straight R).either leaving).times n true x y ↔ ∃ m < n, Rounds R m x y) := by
  induction n generalizing x with
  | zero => simp [times, straight, Rounds]
  | succ n ih =>
    simp only [times, andThen, ih]
    constructor
    · simp [either, leaving, straight, Rounds]
    · rw [Nat.exists_lt_succ_left]
      simp only [either, leaving, straight, Rounds]
      grind

/-- A way that goes on in the text or stays where it is. -/
def IsForward (V : Way) : Prop := ∀ out x y, V out x y → y.ahead.length ≤ x.ahead.length

theorem IsForward.andThen (hV : V.IsForward) (hW : W.IsForward) : (V.andThen W).IsForward := by
  rintro out x y (⟨-, h⟩ | ⟨z, hz, hy⟩)
  · exact hV _ _ _ h
  · exact Nat.le_trans (hW _ _ _ hy) (hV _ _ _ hz)

theorem isForward_straight (h : ∀ x y, R x y → y.ahead.length ≤ x.ahead.length) : (straight R).IsForward :=
  fun _ x y hxy => h x y hxy.2

theorem IsForward.times (hV : V.IsForward) (n : Nat) : (V.times n).IsForward := by
  induction n with
  | zero => exact isForward_straight fun x y h => h ▸ Nat.le_refl _
  | succ n ih => exact hV.andThen ih

variable {behind outside behind' outside' : Prospect} {x : Cursor} {k : Nat}

theorem IsForward.ends_congr (hV : V.IsForward)
    (hbehind : ∀ y, y.ahead.length ≤ x.ahead.length → (behind y k ↔ behind' y k))
    (houtside : ∀ y, y.ahead.length ≤ x.ahead.length → (outside y k ↔ outside' y k)) :
    V.ends behind outside x k ↔ V.ends behind' outside' x k := by
  refine or_congr (exists_congr fun y => ?_) (exists_congr fun y => ?_)
  · exact and_congr_right fun h => hbehind y (hV _ _ _ h)
  · exact and_congr_right fun h => houtside y (hV _ _ _ h)

theorem ends_straight : (straight R).ends behind outside x k ↔ ∃ y, R x y ∧ behind y k := by
  simp [ends, straight]

theorem ends_leaving : leaving.ends behind outside x k ↔ outside x k := by
  simp [ends, leaving]

theorem ends_either :
    (V.either W).ends behind outside x k ↔ V.ends behind outside x k ∨ W.ends behind outside x k := by
  simp only [ends, either]
  grind

theorem ends_again : V.again.ends behind outside x k ↔ ∃ n, (V.times (n + 1)).ends behind outside x k := by
  simp only [ends, again]
  grind

theorem ends_andThen (behind outside : Prospect) :
    (V.andThen W).ends behind outside = V.ends (W.ends behind outside) outside := by
  funext x k
  simp only [ends, andThen, eq_iff_iff]
  grind

theorem ends_times_succ (n : Nat) :
    (V.times (n + 1)).ends behind outside = V.ends ((V.times n).ends behind outside) outside :=
  ends_andThen behind outside

theorem ends_times_zero : (V.times 0).ends behind outside = behind := by
  funext x k
  simp [times, ends_straight]

/-- Of several rounds, one that passes nothing can be left out unless it is the last. -/
theorem exists_ends_times_succ_iff : (∃ n, (V.times (n + 1)).ends behind outside x k) ↔
    V.ends (fun y k => y = x ∧ behind y k ∨ y ≠ x ∧ ∃ n, (V.times n).ends behind outside y k) outside x k := by
  constructor
  · rintro ⟨n, h⟩
    induction n with
    | zero =>
      rw [ends_times_succ, ends_times_zero] at h
      refine h.imp (fun ⟨y, hy, hend⟩ => ⟨y, hy, ?_⟩) id
      by_cases hyx : y = x
      · exact .inl ⟨hyx, hend⟩
      · exact .inr ⟨hyx, 0, by rwa [ends_times_zero]⟩
    | succ n ih =>
      rw [ends_times_succ] at h
      rcases h with ⟨y, hy, hend⟩ | hout
      · by_cases hyx : y = x
        · exact ih (hyx ▸ hend)
        · exact .inl ⟨y, hy, .inr ⟨hyx, n + 1, hend⟩⟩
      · exact .inr hout
  · rintro (⟨y, hy, ⟨-, hend⟩ | ⟨-, n, hend⟩⟩ | hout)
    · refine ⟨0, ?_⟩
      rw [ends_times_succ, ends_times_zero]
      exact .inl ⟨y, hy, hend⟩
    · refine ⟨n, ?_⟩
      rw [ends_times_succ]
      exact .inl ⟨y, hy, hend⟩
    · refine ⟨0, ?_⟩
      rw [ends_times_succ]
      exact .inr hout

/-- Behind a round, the match goes on with a round that passes something, or with what comes behind all of them. -/
theorem exists_ends_times_iff : (∃ n, (V.times n).ends behind outside x k) ↔
    V.ends (fun y k => y ≠ x ∧ ∃ n, (V.times n).ends behind outside y k) outside x k ∨ behind x k := by
  constructor
  · rintro ⟨n, h⟩
    cases n with
    | zero =>
      rw [ends_times_zero] at h
      exact .inr h
    | succ n =>
      rcases exists_ends_times_succ_iff.1 ⟨n, h⟩ with ⟨y, hy, ⟨rfl, hend⟩ | hend⟩ | hout
      · exact .inr hend
      · exact .inl (.inl ⟨y, hy, hend⟩)
      · exact .inl (.inr hout)
  · rintro (h | h)
    · obtain ⟨n, hn⟩ := exists_ends_times_succ_iff.2 (h.imp (fun ⟨y, hy, hend⟩ => ⟨y, hy, .inr hend⟩) id)
      exact ⟨n + 1, hn⟩
    · exact ⟨0, by rwa [ends_times_zero]⟩

end Way

namespace Outlook

/-- The ways through an outlook. A part that can be left is left for the end of the block around it. -/
def ways : Outlook → Way
  | .empty => .straight Eq
  | .one s _ => .straight (Takes s)
  | .at p => .straight fun x y => x = y ∧ p.holds x.gap = true
  | .seq a b => a.ways.andThen b.ways
  | .alt a b => a.ways.either b.ways
  | .block a => .straight fun x y => a.ways false x y ∨ a.ways true x y
  | .orLeave _ a => a.ways.either .leaving
  | .rounds _ a => a.ways.again

variable {R : Cursor → Cursor → Prop} {a : Outlook}

/-! ### Outlooks of patterns -/

theorem ways_copies {steps n : Nat} (hn : n ≤ steps + 1) : (copies a steps n).ways = a.ways.times n := by
  induction steps generalizing n with
  | zero =>
    obtain rfl | rfl : n = 0 ∨ n = 1 := by omega
    · rfl
    · exact Way.times_one.symm
  | succ steps ih =>
    match n with
    | 0 => rfl
    | 1 => exact Way.times_one.symm
    | n + 2 =>
      have hhalves : (n + 2) / 2 + (n + 2 - (n + 2) / 2) = n + 2 := by omega
      rw [copies, ways, ih (by omega), ih (by omega), ← Way.times_add, hhalves] <;> omega

theorem ways_times (n : Nat) : (times n a).ways = a.ways.times n :=
  ways_copies (Nat.le_succ n)

section Repetition

variable (ha : a.ways = .straight R) (greedy : Bool)

include ha

theorem ways_times_of_straight (n : Nat) : (times n a).ways = .counted R (· = n) := by
  simp only [ways_times, ha, Way.times_straight, Way.counted, exists_eq_left]

theorem ways_rounds_of_straight : (rounds greedy a).ways = .counted R (1 ≤ ·) := by
  funext out x y
  simp only [ways, ha, Way.again, Way.times_straight, Way.counted, Way.straight, exists_and_left, eq_iff_iff]
  refine and_congr_right fun _ => ⟨?_, ?_⟩
  · rintro ⟨n, hn⟩
    exact ⟨n + 1, Nat.le_add_left 1 n, hn⟩
  · rintro ⟨n, hpos, hn⟩
    exact ⟨n - 1, by rwa [Nat.sub_add_cancel hpos]⟩

theorem ways_upTo (n : Nat) : (upTo greedy n a).ways = .counted R (· ≤ n) := by
  have hcount : ∀ x y, Rounds R n x y ∨ (∃ m < n, Rounds R m x y) ↔ ∃ m ≤ n, Rounds R m x y := by
    intro x y
    simp only [Nat.le_iff_lt_or_eq]
    grind
  simp only [upTo, ways, ways_times, ha, Way.times_either_leaving, hcount, Way.counted]

theorem ways_repeated (low : Nat) (high : Option Nat) :
    (repeated greedy low high a).ways = .counted R fun n => low ≤ n ∧ ∀ h ∈ high, n ≤ max low h := by
  unfold repeated
  split
  · have hblock : (block (orLeave greedy (rounds greedy a))).ways = .counted R fun _ => True := by
      rw [ways, ways, ways_rounds_of_straight ha, Way.counted, Way.counted]
      congr 1
      funext x y
      rw [eq_iff_iff]
      constructor
      · rintro ((⟨-, n, -, hn⟩ | h) | (h | ⟨-, rfl⟩))
        · exact ⟨n, trivial, hn⟩
        · cases h.1
        · cases h.1
        · exact ⟨0, trivial, rfl⟩
      · rintro ⟨n, -, hn⟩
        cases n with
        | zero => exact .inr (.inr ⟨rfl, hn⟩)
        | succ n => exact .inl (.inl ⟨rfl, n + 1, Nat.le_add_left 1 n, hn⟩)
    rw [hblock]
    exact Way.counted_congr fun n => by simp
  · rw [ways_rounds_of_straight ha]
    exact Way.counted_congr fun n => by simp
  · rename_i low _
    rw [ways, ways_times_of_straight ha, ways_rounds_of_straight ha, Way.counted_andThen]
    refine Way.counted_congr fun n => ⟨?_, fun h => ⟨low, n - low, by omega⟩⟩
    rintro ⟨i, j, rfl, rfl, hj⟩
    exact ⟨Nat.add_le_add_left hj i, by simp⟩
  · rw [ways_upTo ha]
    exact Way.counted_congr fun n => by simp
  · rename_i high _
    split
    · rename_i hle
      rw [ways_times_of_straight ha]
      refine Way.counted_congr fun n => ?_
      simp only [Option.mem_some, forall_eq', Nat.max_eq_left hle]
      omega
    · rename_i hlt
      rw [ways, ways_times_of_straight ha, ways_upTo ha, Way.counted_andThen]
      refine Way.counted_congr fun n => ?_
      simp only [Option.mem_some, forall_eq', Nat.max_eq_right (Nat.le_of_not_le hlt)]
      constructor
      · rintro ⟨i, j, rfl, rfl, hj⟩
        omega
      · intro h
        exact ⟨low, n - low, by omega⟩

end Repetition

theorem ways_ofWord (cs : List Char) : (ofWord cs).ways = .straight (Passes cs) := by
  induction cs using ofWord.induct with
  | case1 => rw [ofWord, ways, passes_nil]
  | case2 c => rw [ofWord, ways, takes_single]
  | case3 c rest h ih =>
    rw [ofWord, ways, ways, takes_single, ih, Way.straight_andThen]
    · congr 1
      funext x y
      rw [← passes_append_iff, List.singleton_append]
    · exact h

theorem ways_ofExpression (a : Expression) : (ofExpression a).ways = .straight a.Reads := by
  induction a with
  | empty | one | «at» => rfl
  | word cs => exact ways_ofWord cs
  | group number a ih => exact ih
  | repeated greedy low high a ih =>
    refine (ways_repeated ih greedy low high).trans ?_
    rw [Way.counted]
    congr 1
    funext x y
    simp only [Expression.Reads, and_assoc]
  | seq a b iha ihb => rw [ofExpression, ways, iha, ihb, Way.straight_andThen]; rfl
  | alt a b iha ihb =>
    funext out x y
    simp only [ofExpression, ways, iha, ihb, Way.either, Way.straight, Expression.Reads, and_or_left]

end Outlook

end BundleCheck.Pattern
