import BundleCheck.Pattern.Footprint
import Mathlib.Algebra.GroupWithZero.Nat

/-!
# Patterns that are too large, and patterns that are not

An automaton that has been built holds each of its parts, so a word alone can make it too large. That it does not
become too large can be told from a sum over the pattern, for which no state has to be numbered: states that are
shared only make it smaller.
-/

namespace BundleCheck.Pattern

namespace Footprint

variable {f g : Footprint} {step : Growth} {steps : List Growth} {bound others : Nat}

/-! ### What has to fit -/

theorem inTurn_cons (f : Footprint) : inTurn (step :: steps) f = (step f).bind (inTurn steps) := rfl

/-- Of some steps that succeed, each does so at its time. -/
theorem exists_of_inTurn (h : inTurn steps f = some g) (hmem : step ∈ steps) : ∃ f' g', step f' = some g' := by
  induction steps generalizing f with
  | nil => cases hmem
  | cons first rest ih =>
    obtain ⟨f', hfirst, hrest⟩ := Option.bind_eq_some_iff.1 ((inTurn_cons f).symm.trans h)
    rcases List.mem_cons.1 hmem with rfl | hmem
    · exact ⟨f, f', hfirst⟩
    · exact ih hrest hmem

theorem le_limit_of_add {states detail : Nat} (h : add states detail f = some g) : stateBytes * states ≤ limit := by
  rw [add, within] at h
  split at h
  · rename_i hle
    rw [bytes, Nat.mul_add] at hle
    omega
  · cases h

theorem le_limit_of_word {d : Direction} {cs : List Char} (h : ofExpression d (.word cs) .whole f = some g) :
    stateBytes * (bytesOf cs).length ≤ limit := by
  obtain ⟨_, _, hplain⟩ := exists_of_inTurn h List.mem_cons_self
  obtain ⟨_, _, hadd⟩ := exists_of_inTurn hplain List.mem_cons_self
  exact le_limit_of_add hadd

theorem exists_of_ofParts {f g : Footprint} {d : Direction} {as : List Expression} {a : Expression}
    (h : ofExpression d (.ofParts as) .whole f = some g) (hmem : a ∈ as) :
    ∃ f' g', ofExpression d a .whole f' = some g' := by
  match as with
  | [] => cases hmem
  | [b] =>
    rw [List.mem_singleton.1 hmem]
    exact ⟨f, g, h⟩
  | b :: c :: rest =>
    have hboth : (∃ f' g', ofExpression d b .whole f' = some g') ∧
        ∃ f' g', ofExpression d (.ofParts (c :: rest)) .whole f' = some g' := by
      cases d with
      | forwards => exact ⟨exists_of_inTurn h (by simp), exists_of_inTurn h (by simp)⟩
      | backwards => exact ⟨exists_of_inTurn h (by simp), exists_of_inTurn h (by simp)⟩
    rcases List.mem_cons.1 hmem with rfl | hmem
    · exact hboth.1
    · obtain ⟨_, _, hrest⟩ := hboth.2
      exact exists_of_ofParts hrest hmem

/-! ### What is enough -/

/-- The step takes no more than so many bytes, and succeeds if there are so many left. -/
def Costs (step : Growth) (bound : Nat) : Prop :=
  ∀ f, f.bytes + bound ≤ limit → ∃ f', step f = some f' ∧ f'.bytes ≤ f.bytes + bound

theorem Costs.mono (h : Costs step bound) (hle : bound ≤ others) : Costs step others := by
  intro f hf
  obtain ⟨f', hstep, hbytes⟩ := h f (by omega)
  exact ⟨f', hstep, by omega⟩

theorem costs_add (states detail : Nat) : Costs (add states detail) (stateBytes * states + detail) := by
  intro f hf
  have hbytes : stateBytes * (f.states + states) + (f.detail + detail) =
      f.bytes + (stateBytes * states + detail) := by
    rw [bytes, Nat.mul_add]
    omega
  refine ⟨{ f with states := f.states + states, detail := f.detail + detail }, ?_, Nat.le_of_eq hbytes⟩
  rw [add, within, if_pos]
  exact Nat.le_trans (Nat.le_of_eq hbytes) hf

theorem costs_ending (branching : Bool) : Costs (ending branching) 0 := fun f _ => ⟨_, rfl, Nat.le_refl f.bytes⟩

theorem costs_some : Costs some 0 := fun f _ => ⟨f, rfl, Nat.le_refl f.bytes⟩

theorem costs_link : Costs link branchBytes := by
  intro f hf
  rw [link]
  split
  · exact (costs_add 0 branchBytes).mono (by simp) f hf
  · exact ⟨f, rfl, by omega⟩

theorem costs_nil : Costs (inTurn []) 0 := costs_some

theorem Costs.cons (h : Costs step bound) (hrest : Costs (inTurn steps) others) :
    Costs (inTurn (step :: steps)) (bound + others) := by
  intro f hf
  obtain ⟨f', hstep, hbytes⟩ := h f (by omega)
  obtain ⟨f'', hsteps, hbytes'⟩ := hrest f' (by omega)
  refine ⟨f'', ?_, by omega⟩
  rw [inTurn_cons, hstep, Option.bind_some, hsteps]

theorem costs_plain (states detail : Nat) : Costs (plain states detail) (stateBytes * states + detail) :=
  ((costs_add states detail).cons ((costs_ending false).cons costs_nil)).mono (by omega)

/-! ### Sets of characters -/

theorem bytes_state (key : List Nat) (detail : Nat) (s : Shared) :
    (s.state key detail).2.footprint.bytes ≤ s.footprint.bytes + (stateBytes + detail) := by
  rw [Shared.state]
  split
  · exact Nat.le_add_right _ _
  · simp only [bytes, Nat.mul_add]
    omega

/-- What the blocks take if no state is shared. -/
def blocksCost : Nat → List Block → Nat
  | 0, _ => 0
  | length + 1, blocks =>
    let edges := collect blocks
    (edges.map fun (_, rests) => if rests.all List.isEmpty then 0 else blocksCost length rests).sum +
      (stateBytes + edgeBytes * edges.length)

theorem bytes_mapM {α β : Type} {step : α → StateM Shared β} {cost : α → Nat} (as : List α)
    (h : ∀ a s, (StateT.run (step a) s).2.footprint.bytes ≤ s.footprint.bytes + cost a) (s : Shared) :
    (StateT.run (as.mapM step) s).2.footprint.bytes ≤ s.footprint.bytes + (as.map cost).sum ∧
      (StateT.run (as.mapM step) s).1.length = as.length := by
  induction as generalizing s with
  | nil => exact ⟨Nat.le_refl _, rfl⟩
  | cons a rest ih =>
    obtain ⟨hbytes, hlength⟩ := ih (StateT.run (step a) s).2
    have hfirst := h a s
    rw [List.mapM_cons, List.map_cons, List.sum_cons, List.length_cons]
    refine ⟨?_, congrArg Nat.succ hlength⟩
    refine Nat.le_trans hbytes ?_
    omega

theorem bytes_readBlocks (exit length : Nat) (blocks : List Block) (s : Shared) :
    (StateT.run (readBlocks exit length blocks) s).2.footprint.bytes ≤
      s.footprint.bytes + blocksCost length blocks := by
  induction length generalizing blocks s with
  | zero => exact Nat.le_refl _
  | succ length ih =>
    let edge : ByteRange × List Block → StateM Shared (List Nat) := fun (range, rests) => do
      let target ← if rests.all List.isEmpty then pure exit else readBlocks exit length rests
      return [range.first, range.last, target]
    let cost : ByteRange × List Block → Nat := fun (_, rests) =>
      if rests.all List.isEmpty then 0 else blocksCost length rests
    have hedge : ∀ a s, (StateT.run (edge a) s).2.footprint.bytes ≤ s.footprint.bytes + cost a := by
      rintro ⟨range, rests⟩ s
      by_cases hempty : rests.all List.isEmpty = true
      · simp only [edge, cost, hempty, if_true]
        exact Nat.le_refl _
      · simp only [edge, cost, hempty]
        exact ih rests s
    obtain ⟨hbytes, hlength⟩ := bytes_mapM (collect blocks) hedge s
    have hcost : blocksCost (length + 1) blocks =
        ((collect blocks).map cost).sum + (stateBytes + edgeBytes * (collect blocks).length) := rfl
    have hrun : (StateT.run (readBlocks exit (length + 1) blocks) s).2 =
        (Shared.state (StateT.run ((collect blocks).mapM edge) s).1.flatten
          (edgeBytes * (StateT.run ((collect blocks).mapM edge) s).1.length)
          (StateT.run ((collect blocks).mapM edge) s).2).2 := rfl
    rw [hrun, hcost, hlength, ← Nat.add_assoc]
    exact Nat.le_trans (bytes_state _ _ _) (Nat.add_le_add_right hbytes _)

theorem costs_within {f' : Footprint} (h : f'.bytes ≤ f.bytes + bound) (hf : f.bytes + bound ≤ limit) :
    ∃ f'', f'.within = some f'' ∧ f''.bytes ≤ f.bytes + bound :=
  ⟨f', if_pos (Nat.le_trans h hf), h⟩

theorem costs_setForwards (s : CharSet) : Costs (setForwards s) (stateBytes + blocksCost maxLength s.blocks) := by
  intro f hf
  refine costs_within ?_ hf
  have hread := bytes_readBlocks f.states maxLength s.blocks
    ⟨{ f with states := f.states + 1 }, .empty forwardPlaces⟩
  refine Nat.le_trans hread ?_
  simp only [bytes, Nat.mul_add]
  omega

theorem bytes_readBlock (exit : Nat) (s : Shared) (block : Block) :
    (readBlock exit s block).footprint.bytes ≤ s.footprint.bytes + (stateBytes * block.length + branchBytes) := by
  let read : Nat × Shared → ByteRange → Nat × Shared := fun p range =>
    Shared.state [p.1, range.first, range.last] 0 p.2
  have hfold : ∀ p : Nat × Shared,
      (block.foldl read p).2.footprint.bytes ≤ p.2.footprint.bytes + stateBytes * block.length := by
    induction block with
    | nil => exact fun _ => Nat.le_refl _
    | cons range rest ih =>
      intro p
      have hstate : (read p range).2.footprint.bytes ≤ p.2.footprint.bytes + (stateBytes + 0) := bytes_state _ _ _
      have hrest := ih (read p range)
      rw [List.foldl_cons, List.length_cons, Nat.mul_add]
      refine Nat.le_trans hrest ?_
      omega
  have hblock : (readBlock exit s block).footprint.bytes =
      (block.foldl read (exit, s)).2.footprint.bytes + branchBytes := (Nat.add_assoc _ _ _).symm
  rw [hblock, ← Nat.add_assoc]
  exact Nat.add_le_add_right (hfold (exit, s)) _

theorem costs_setBackwards (s : CharSet) :
    Costs (setBackwards s) (2 * stateBytes + (s.blocks.map fun b => stateBytes * b.length + branchBytes).sum) := by
  have hfold : ∀ (blocks : List Block) (exit : Nat) (s : Shared), (blocks.foldl (readBlock exit) s).footprint.bytes ≤
      s.footprint.bytes + (blocks.map fun b => stateBytes * b.length + branchBytes).sum := by
    intro blocks exit
    induction blocks with
    | nil => exact fun _ => Nat.le_refl _
    | cons b rest ih =>
      intro s
      have hrest := ih (readBlock exit s b)
      have hfirst := bytes_readBlock exit s b
      rw [List.foldl_cons, List.map_cons, List.sum_cons]
      omega
  intro f hf
  refine costs_within ?_ hf
  refine Nat.le_trans (hfold _ _ _) ?_
  simp only [bytes, Nat.mul_add]
  omega

/-- What a set takes at most, in either direction. -/
def setCost (s : CharSet) : Nat :=
  if s.isAscii then 2 * stateBytes + edgeBytes * s.ranges.length
  else 2 * stateBytes + blocksCost maxLength s.blocks + (s.blocks.map fun b => stateBytes * b.length + branchBytes).sum

theorem costs_set (d : Direction) (s : CharSet) : Costs (set d s) (setCost s) := by
  have hend : Costs (inTurn [ending false]) 0 := (costs_ending false).cons costs_nil
  have hset : ∀ states, Costs states (2 * stateBytes + blocksCost maxLength s.blocks +
      (s.blocks.map fun b => stateBytes * b.length + branchBytes).sum) →
      Costs (inTurn [if s.isAscii then add 2 (edgeBytes * s.ranges.length) else states, ending false]) (setCost s) := by
    intro states hstates
    rw [setCost]
    split
    · exact ((costs_add 2 _).cons hend).mono (by omega)
    · exact (hstates.cons hend).mono (Nat.le_refl _)
  cases d with
  | forwards => exact hset _ ((costs_setForwards s).mono (by omega))
  | backwards => exact hset _ ((costs_setBackwards s).mono (by omega))

/-! ### Patterns -/

/-- There are no alternatives, and repetitions have no limit and ask for one copy at most. -/
def isSimple : Expression → Bool
  | .alt _ _ => false
  | .repeated _ low high a => decide (low ≤ 1) && high.isNone && isSimple a
  | .group _ a => isSimple a
  | .seq a b => isSimple a && isSimple b
  | _ => true

/-- What a simple pattern takes at most, in either direction. -/
def costOf : Expression → Nat
  | .empty | .at _ => stateBytes
  | .word cs => stateBytes * (bytesOf cs).length
  | .one s => setCost s
  | .group _ a => costOf a + (2 * stateBytes + branchBytes)
  | .repeated _ _ _ a => costOf a + (3 * stateBytes + 5 * branchBytes)
  | .seq a b | .alt a b => costOf a + costOf b + branchBytes

theorem costs_ofExpression (d : Direction) {a : Expression} (ha : isSimple a = true) :
    Costs (ofExpression d a .whole) (costOf a) := by
  have hclose : Costs (inTurn [Standing.close .whole]) 0 := (costs_some.cons costs_nil).mono (by omega)
  induction a with
  | empty | «at» =>
    exact ((costs_plain 1 0).cons hclose).mono (by simp [costOf])
  | word cs => exact ((costs_plain _ 0).cons hclose).mono (by simp [costOf])
  | one s => exact ((costs_set d s).cons hclose).mono (by simp [costOf])
  | group number a ih =>
    have hinner := ih ha
    cases d with
    | forwards =>
      refine ((costs_add 1 0).cons (hinner.cons (costs_link.cons ((costs_plain 1 0).cons hclose)))).mono ?_
      rw [costOf]
      omega
    | backwards =>
      refine (hinner.cons hclose).mono ?_
      rw [costOf]
      omega
  | repeated greedy low high a ih =>
    simp only [isSimple, Bool.and_eq_true, decide_eq_true_eq, Option.isNone_iff_eq_none] at ha
    obtain ⟨⟨hlow, rfl⟩, ha⟩ := ha
    have hinner := ih ha
    have hrepeated : Costs (repeated (ofExpression d a .whole) a.readsOn low none)
        (costOf a + (3 * stateBytes + 5 * branchBytes)) := by
      match low, hlow with
      | 0, _ =>
        show Costs (anyNumber _ _) _
        rw [anyNumber]
        split
        · refine ((costs_add 1 branchBytes).cons
            (hinner.cons (costs_link.cons ((costs_ending true).cons costs_nil)))).mono ?_
          omega
        · refine (hinner.cons (costs_link.cons ((costs_plain 3 (4 * branchBytes)).cons costs_nil))).mono ?_
          omega
      | 1, _ =>
        refine (hinner.cons (costs_link.cons ((costs_add 1 branchBytes).cons
          ((costs_ending true).cons costs_nil)))).mono ?_
        omega
    exact (hrepeated.cons hclose).mono (Nat.le_refl _)
  | seq a b iha ihb =>
    obtain ⟨ha, hb⟩ := Bool.and_eq_true_iff.1 ha
    cases d with
    | forwards =>
      refine ((iha ha).cons (costs_link.cons ((ihb hb).cons hclose))).mono ?_
      rw [costOf]
      omega
    | backwards =>
      refine ((ihb hb).cons (costs_link.cons ((iha ha).cons hclose))).mono ?_
      rw [costOf]
      omega
  | alt a b => cases ha

theorem isSimple_ofParts {as : List Expression} (h : ∀ a ∈ as, isSimple a = true) :
    isSimple (.ofParts as) = true :=
  Expression.ofParts_induction (P := fun a => isSimple a = true) rfl
    (fun _ _ ha hb => Bool.and_eq_true_iff.2 ⟨ha, hb⟩) h

theorem costOf_ofParts_le (as : List Expression) :
    costOf (.ofParts as) ≤ stateBytes + (as.map fun a => costOf a + branchBytes).sum := by
  match as with
  | [] => exact Nat.le_refl _
  | [a] =>
    rw [List.map_singleton, List.sum_singleton, Expression.ofParts]
    omega
  | a :: b :: rest =>
    have hrest := costOf_ofParts_le (b :: rest)
    have hcost : costOf (.ofParts (a :: b :: rest)) = costOf a + costOf (.ofParts (b :: rest)) + branchBytes := rfl
    rw [hcost, List.map_cons, List.sum_cons]
    omega

/-! ### The bytes of words -/

theorem length_bytesOf (cs : List Char) : (bytesOf cs).length = (cs.map Char.utf8Size).sum := by
  simp only [bytesOf, List.length_flatMap, List.length_map, String.length_utf8EncodeChar]

theorem length_bytesOf_replicate (n : Nat) (c : Char) : (bytesOf (List.replicate n c)).length = n * c.utf8Size := by
  rw [length_bytesOf, List.map_replicate, List.sum_replicate_nat]

/-! ### Whole patterns -/

theorem bytes_empty : empty.bytes = 0 := rfl

theorem isSome_ofPattern (d : Direction) {a : Expression} (ha : isSimple a = true)
    (hcost : costOf a + (6 * stateBytes + 2 * edgeBytes + 4 * branchBytes) ≤ limit) : (ofPattern d a).isSome = true := by
  have hstart : Costs (if isAnchored d a then add 1 0 else add 3 (edgeBytes + 2 * branchBytes))
      (3 * stateBytes + (edgeBytes + 2 * branchBytes)) := by
    split
    · exact (costs_add 1 0).mono (by omega)
    · exact (costs_add 3 _).mono (by omega)
  have hpattern : ∀ whole, Costs (ofExpression d whole .whole) (costOf a + (2 * stateBytes + branchBytes)) →
      ∃ f, inTurn [if isAnchored d a then add 1 0 else add 3 (edgeBytes + 2 * branchBytes),
        ofExpression d whole .whole, link, add 1 0] empty = some f := by
    intro whole hwhole
    obtain ⟨f, hf, -⟩ := (hstart.cons (hwhole.cons (costs_link.cons ((costs_add 1 0).cons costs_nil)))) empty
      (by rw [bytes_empty]; omega)
    exact ⟨f, hf⟩
  cases d with
  | forwards =>
    obtain ⟨_, hf⟩ := hpattern (.group 0 a) (costs_ofExpression .forwards ha)
    exact Option.isSome_of_eq_some hf
  | backwards =>
    obtain ⟨_, hf⟩ := hpattern a ((costs_ofExpression .backwards ha).mono (Nat.le_add_right _ _))
    exact Option.isSome_of_eq_some hf

end Footprint

open Footprint

/-- A pattern with a word in it that is too long is too large. -/
theorem Expression.not_isAffordable_of_word {as : List Expression} {cs : List Char} (hmem : .word cs ∈ as)
    (hlong : limit < stateBytes * (bytesOf cs).length) : (ofParts as).isAffordable = false := by
  cases hpattern : ofPattern .backwards (.ofParts as) with
  | none => rw [isAffordable, hpattern, Option.isSome_none, Bool.and_false]
  | some f =>
    obtain ⟨_, _, hparts⟩ := exists_of_inTurn hpattern (List.mem_cons_of_mem _ List.mem_cons_self)
    obtain ⟨_, _, hword⟩ := exists_of_ofParts hparts hmem
    exact absurd (le_limit_of_word hword) (Nat.not_le.2 hlong)

theorem Expression.isAffordable_of_cost {a : Expression} (ha : isSimple a = true)
    (hcost : costOf a + (6 * stateBytes + 2 * edgeBytes + 4 * branchBytes) ≤ limit) : a.isAffordable = true := by
  rw [isAffordable, isSome_ofPattern .forwards ha hcost, isSome_ofPattern .backwards ha hcost]
  rfl

end BundleCheck.Pattern
