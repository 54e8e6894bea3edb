import BundleCheck.Proofs.Check.NestedWords
import Mathlib.Data.List.Forall2

/-!
# Marks that are their own partners

The check for brackets can be given the same list on both sides, and then a character closes the innermost pair if it
began it and begins a pair otherwise. That is what the check for quotation marks does with its list. The one keeps
places in the list on its stack and the other characters, but both stacks stay alike, and the findings are the same
but for their words.
-/

namespace BundleCheck

/-- The finding without its words. -/
def Finding.unworded (x : Finding) : Finding := { x with message := "" }

theorem Finding.unworded_graded (position : Option Position) (key : Option String) (message : String) :
    (graded position key message).unworded = graded position key "" := by
  rw [graded_eq, graded_eq]
  rfl

namespace SymmetricMarks

open QuotationMarks (OpenMark openFrom)
open Nesting (Pending Fault faultFrom?)

/-- Both stand for the same mark at the same place. -/
def Mirrors (marks : List Char) (p : Pending) (m : OpenMark) : Prop :=
  marks.idxOf? m.mark = some p.pair ∧ p.column = m.column

variable {marks : List Char} {stack : List Pending} {opened : List OpenMark}

/-- The two stacks stay alike, and there is no fault on the way. -/
theorem exists_step (h : List.Forall₂ (Mirrors marks) stack opened) (column : Nat) (c : Char) :
    ∃ after, Nesting.step marks marks column c stack = .ok after ∧
      List.Forall₂ (Mirrors marks) after
        (if marks.contains c then QuotationMarks.step column c opened else opened) := by
  by_cases hc : c ∈ marks
  · obtain ⟨pair, hpair⟩ := Option.isSome_iff_exists.1 (List.isSome_idxOf?.2 hc)
    rw [if_pos (List.contains_iff_mem.2 hc)]
    have hnew : Mirrors marks ⟨pair, column⟩ ⟨c, column⟩ := ⟨hpair, rfl⟩
    cases h with
    | nil => exact ⟨[⟨pair, column⟩], by rw [Nesting.step, hpair], .cons hnew .nil⟩
    | @cons top m below others htop hbelow =>
      have hmark := Nesting.getElem?_of_idxOf? htop.1
      by_cases hsame : m.mark = c
      · refine ⟨below, Nesting.step_of_closing (hmark.trans (congrArg some hsame)), ?_⟩
        rw [QuotationMarks.step, if_pos hsame]
        exact hbelow
      · have hother : marks[top.pair]? ≠ some c := by
          rw [hmark]
          exact fun heq => hsame (Option.some.inj heq)
        refine ⟨⟨pair, column⟩ :: top :: below, by rw [Nesting.step, if_neg hother, hpair], ?_⟩
        rw [QuotationMarks.step, if_neg hsame]
        exact .cons hnew (.cons htop hbelow)
  · rw [if_neg (by simpa using hc)]
    exact ⟨stack, Nesting.step_of_unlisted hc hc, h⟩

theorem map_column_getLast? (h : List.Forall₂ (Mirrors marks) stack opened) :
    stack.getLast?.map Pending.column = opened.getLast?.map OpenMark.column := by
  have hcolumns : stack.map Pending.column = opened.map OpenMark.column := by
    rw [← List.forall₂_eq_eq_eq, List.forall₂_map_left_iff, List.forall₂_map_right_iff]
    exact h.imp fun _ _ hmirrors => hmirrors.2
  rw [← List.getLast?_map, ← List.getLast?_map, hcolumns]

/-- The rest of a value has a fault where it has a mark that is not paired. -/
theorem map_column_faultFrom? (h : List.Forall₂ (Mirrors marks) stack opened) (before : Option Char) (column : Nat)
    (value : List Char) :
    (faultFrom? marks marks false before column stack value).map Fault.column =
      (openFrom marks column opened value).getLast?.map OpenMark.column := by
  induction value generalizing stack opened before column with
  | nil =>
    rw [faultFrom?, Option.map_map, openFrom, ← map_column_getLast? h]
    rfl
  | cons c rest ih =>
    obtain ⟨after, hstep, hafter⟩ := exists_step h column c
    rw [faultFrom?, Bool.false_and, if_neg Bool.false_ne_true, hstep, openFrom]
    exact ih hafter (some c) (column + 1)

theorem map_unworded_inspectLine (marks : List Char) (comments : Bool) (number : Nat) (line : Line) :
    (Nesting.inspectLine ⟨marks, marks, false, comments⟩ number line).map Finding.unworded =
      (QuotationMarks.inspectLine ⟨marks, comments⟩ number line).map Finding.unworded := by
  rw [Nesting.inspectLine, QuotationMarks.inspectLine]
  cases line.inspected? comments with
  | none => rfl
  | some value =>
    have hcolumns : (Nesting.fault? marks marks false value.toList).map Fault.column =
        (QuotationMarks.unpaired? marks value.toList).map OpenMark.column := map_column_faultFrom? .nil none 1 _
    have hplaces := congrArg (fun column => (column.map fun n =>
      Finding.graded (some (.atColumn number n)) line.key? "").toList) hcolumns
    simpa only [Option.map_map, Option.toList_map, List.map_map, Function.comp_def, Finding.unworded_graded]
      using hplaces

theorem map_unworded_findings (marks : List Char) (comments : Bool) (d : Content) :
    (Nesting.findings ⟨marks, marks, false, comments⟩ d).map Finding.unworded =
      (QuotationMarks.findings ⟨marks, comments⟩ d).map Finding.unworded := by
  rw [Nesting.findings, QuotationMarks.findings, Bool.or_self]
  split
  · rfl
  · rw [if_neg (not_not.2 rfl), Content.inspect, Content.inspect, List.map_flatMap, List.map_flatMap]
    exact List.flatMap_congr fun p _ => map_unworded_inspectLine marks comments p.2 p.1

end SymmetricMarks

/-- With one list on both sides and nothing left out between quotes, the check for brackets answers as the one for
quotation marks does with this list: findings of the same severity, at the same places and under the same keys, in the
same order. -/
theorem Check.brackets_agree_with_quotationMarks (marks : List Char) (comments : Bool) (translation : Content)
    (reference : Option Content) :
    ∃ nested paired : Section,
      (brackets ⟨marks, marks, false, comments⟩).run translation reference = .ok nested ∧
      (quotationMarks ⟨marks, comments⟩).run translation reference = .ok paired ∧
      nested.findings.map Finding.unworded = paired.findings.map Finding.unworded :=
  ⟨_, _, rfl, rfl, SymmetricMarks.map_unworded_findings marks comments translation⟩

end BundleCheck
