import BundleCheck.Bundle.Basic
import BundleCheck.Proofs.Check.Inspection
import Mathlib.Data.List.Chain
import Mathlib.Logic.Relation

/-!
# Marks that cancel

Quotation marks are paired up if they can all be taken away, two equal neighbours at a time. The order in which this
is done does not matter: what is left in the end is always the same, and it is what a stack leaves open that takes
the marks from left to right. So the mark that is reported is the first of those that are left.
-/

namespace BundleCheck.QuotationMarks

/-- Two equal neighbours are taken away. -/
inductive Cancels : List Char → List Char → Prop
  | pair (front : List Char) (c : Char) (back : List Char) : Cancels (front ++ c :: c :: back) (front ++ back)

/-- No more can be taken away. -/
def IsReduced (word : List Char) : Prop := ∀ rest, ¬ Cancels word rest

/-- What a mark does to the open ones, told by the marks alone. -/
def cancel (stack : List Char) (c : Char) : List Char :=
  if stack.head? = some c then stack.tail else c :: stack

/-- The marks that are open after a word, from left to right. -/
def residue (word : List Char) : List Char := (word.foldl cancel []).reverse

open Relation (ReflTransGen)

variable {word rest stack : List Char} {c : Char}

/-! ### Open marks -/

/-- A mark is never open beside an equal one. -/
theorem isChain_cancel (h : stack.IsChain (· ≠ ·)) : (cancel stack c).IsChain (· ≠ ·) := by
  rw [cancel]
  split
  · exact h.tail
  · rename_i hother
    cases stack with
    | nil => exact .singleton c
    | cons top below =>
      rw [List.isChain_cons_cons]
      exact ⟨fun heq => hother (heq ▸ rfl), h⟩

theorem isChain_foldl_cancel (h : stack.IsChain (· ≠ ·)) : (word.foldl cancel stack).IsChain (· ≠ ·) := by
  induction word generalizing stack with
  | nil => exact h
  | cons c word ih => exact ih (isChain_cancel h)

/-- Of two equal marks the second undoes what the first did. -/
theorem cancel_cancel (h : stack.IsChain (· ≠ ·)) (c : Char) : cancel (cancel stack c) c = stack := by
  cases stack with
  | nil => simp [cancel]
  | cons top below =>
    by_cases htop : top = c
    · subst htop
      have hbelow : below.head? ≠ some top := by
        intro hhead
        obtain ⟨further, rfl⟩ := List.head?_eq_some_iff.1 hhead
        exact (List.isChain_cons_cons.1 h).1 rfl
      simp [cancel, hbelow]
    · simp [cancel, htop]

/-! ### Taking pairs away -/

theorem Cancels.not_isChain (h : Cancels word rest) : ¬ word.IsChain (· ≠ ·) := by
  obtain ⟨front, c, back⟩ := h
  intro hchain
  have hpair := (List.isChain_append.1 hchain).2.1
  exact (List.isChain_cons_cons.1 hpair).1 rfl

theorem Cancels.residue_eq (h : Cancels word rest) : residue word = residue rest := by
  obtain ⟨front, c, back⟩ := h
  have hfront : (front.foldl cancel []).IsChain (· ≠ ·) := isChain_foldl_cancel .nil
  rw [residue, residue, List.foldl_append, List.foldl_append, List.foldl_cons, List.foldl_cons,
    cancel_cancel hfront]

theorem residue_eq (h : ReflTransGen Cancels word rest) : residue word = residue rest := by
  induction h with
  | refl => rfl
  | tail _ hstep ih => exact ih.trans hstep.residue_eq

theorem isReduced_residue (word : List Char) : IsReduced (residue word) := by
  intro rest h
  refine h.not_isChain ?_
  rw [residue, List.isChain_reverse]
  exact (isChain_foldl_cancel .nil).imp fun _ _ hne => hne.symm

/-- What has been read can be brought down to the open marks. -/
theorem cancels_foldl (stack word : List Char) :
    ReflTransGen Cancels (stack.reverse ++ word) (word.foldl cancel stack).reverse := by
  induction word generalizing stack with
  | nil =>
    rw [List.append_nil]
    exact .refl
  | cons c word ih =>
    refine .trans ?_ (ih (cancel stack c))
    cases stack with
    | nil => exact .refl
    | cons top below =>
      by_cases htop : top = c
      · subst htop
        simpa [cancel] using ReflTransGen.single (Cancels.pair below.reverse top word)
      · have hkept : cancel (top :: below) c = c :: top :: below := by simp [cancel, htop]
        rw [hkept, List.reverse_cons (a := c), List.append_assoc]
        exact .refl

theorem cancels_residue (word : List Char) : ReflTransGen Cancels word (residue word) :=
  cancels_foldl [] word

/-- Whatever has been taken away, the same is left in the end. -/
theorem cancels_residue_of_cancels (h : ReflTransGen Cancels word rest) : ReflTransGen Cancels rest (residue word) := by
  rw [residue_eq h]
  exact cancels_residue rest

theorem eq_residue_of_isReduced (h : ReflTransGen Cancels word rest) (hreduced : IsReduced rest) :
    rest = residue word := by
  rcases ReflTransGen.cases_head_iff.1 (cancels_residue_of_cancels h) with heq | ⟨next, hstep, -⟩
  · exact heq
  · exact absurd hstep (hreduced next)

/-! ### The marks of a value -/

variable {marks : List Char} {column : Nat}

theorem map_mark_step (column : Nat) (c : Char) (stack : List OpenMark) :
    (step column c stack).map OpenMark.mark = cancel (stack.map OpenMark.mark) c := by
  cases stack with
  | nil => rfl
  | cons top below =>
    rw [step]
    split
    · rename_i htop
      simp [cancel, htop]
    · rename_i htop
      simp [cancel, htop]

theorem map_mark_openFrom (marks : List Char) (column : Nat) (stack : List OpenMark) (value : List Char) :
    (openFrom marks column stack value).map OpenMark.mark =
      (value.filter marks.contains).foldl cancel (stack.map OpenMark.mark) := by
  induction value generalizing column stack with
  | nil => rfl
  | cons c value ih =>
    rw [openFrom, ih]
    by_cases hc : marks.contains c = true
    · rw [if_pos hc, List.filter_cons_of_pos hc, List.foldl_cons, map_mark_step]
    · rw [if_neg hc, List.filter_cons_of_neg hc]

theorem map_mark_unpaired? (marks value : List Char) :
    (unpaired? marks value).map OpenMark.mark = (residue (value.filter marks.contains)).head? := by
  rw [unpaired?, ← List.getLast?_map, map_mark_openFrom, residue, List.head?_reverse, List.map_nil]

/-- A mark that is open is where its column says. -/
theorem getElem?_of_mem_openFrom {value : List Char} {stack : List OpenMark} {m : OpenMark}
    (h : m ∈ openFrom marks column stack value) :
    m ∈ stack ∨ ∃ place, m.column = column + place ∧ value[place]? = some m.mark := by
  induction value generalizing column stack with
  | nil => exact .inl h
  | cons c value ih =>
    rw [openFrom] at h
    rcases ih h with hopen | ⟨place, hcolumn, hmark⟩
    · split at hopen
      · rcases mem_of_mem_step hopen with hbefore | rfl
        · exact .inl hbefore
        · exact .inr ⟨0, rfl, rfl⟩
      · exact .inl hopen
    · exact .inr ⟨place + 1, by omega, hmark⟩

theorem exists_of_unpaired? {value : List Char} {m : OpenMark} (h : unpaired? marks value = some m) :
    ∃ place, m.column = place + 1 ∧ value[place]? = some m.mark := by
  rcases getElem?_of_mem_openFrom (List.mem_of_getLast? h) with hopen | ⟨place, hcolumn, hmark⟩
  · cases hopen
  · exact ⟨place, by omega, hmark⟩

/-! ### Findings -/

/-- Where there are marks to look for, what is found on a line is the mark of its value that is not paired. -/
theorem filter_findings {o : QuotationOptions} (hne : o.marks ≠ []) {d : Content} {number : Nat} {line : Line}
    {value : String} (hline : d.line? number = some line) (hvalue : line.inspected? o.comments = some value) :
    (findings o d).filter (fun x => x.line? = some number) =
      (unpaired? o.marks value.toList).toList.map fun m =>
        .graded (some (.atColumn number m.column)) line.key? (message m.mark) := by
  have hcomplaint : complaint? o = none := by simp [complaint?, hne]
  rw [findings_eq, hcomplaint, Option.elim_none, Content.filter_inspect (inspects o).pointing, hline, Option.elim_some,
    inspectLine, hvalue]

/-- Nothing is found on a line exactly if all marks of its value cancel. What is left of them in the end is the same
for every order, and it can be reached whatever has been taken away before. If anything is left, there is one finding,
at a mark of the value that is the first of what is left. -/
theorem unpaired_of_residue {o : QuotationOptions} (hne : o.marks ≠ []) {d : Content} {number : Nat} {line : Line}
    {value : String} (hline : d.line? number = some line) (hvalue : line.inspected? o.comments = some value) :
    let word := value.toList.filter o.marks.contains
    let found := (findings o d).filter fun x => x.line? = some number
    (found = [] ↔ ReflTransGen Cancels word []) ∧
    ∃ left, IsReduced left ∧ (∀ rest, ReflTransGen Cancels word rest → ReflTransGen Cancels rest left) ∧
      (∀ rest, ReflTransGen Cancels word rest → IsReduced rest → rest = left) ∧
      (found = [] ↔ left = []) ∧
      ∀ mark others, left = mark :: others → ∃ column,
        found = [.graded (some (.atColumn number column)) line.key? (message mark)] ∧
          1 ≤ column ∧ value.toList[column - 1]? = some mark := by
  intro word found
  have hfound : found = (unpaired? o.marks value.toList).toList.map fun m =>
      .graded (some (.atColumn number m.column)) line.key? (message m.mark) := filter_findings hne hline hvalue
  have hmark : (unpaired? o.marks value.toList).map OpenMark.mark = (residue word).head? := map_mark_unpaired? _ _
  have hnone : found = [] ↔ residue word = [] := by
    rw [hfound, List.map_eq_nil_iff, Option.toList_eq_nil_iff, ← List.head?_eq_none_iff, ← hmark,
      Option.map_eq_none_iff]
  refine ⟨?_, residue word, isReduced_residue word, fun _ => cancels_residue_of_cancels,
    fun _ => eq_residue_of_isReduced, hnone, ?_⟩
  · rw [hnone]
    constructor
    · intro hempty
      exact hempty ▸ cancels_residue word
    · intro hcancels
      exact residue_eq hcancels
  · intro mark others hleft
    rw [hleft, List.head?_cons, Option.map_eq_some_iff] at hmark
    obtain ⟨m, hm, rfl⟩ := hmark
    obtain ⟨place, hcolumn, hplace⟩ := exists_of_unpaired? hm
    refine ⟨m.column, ?_, by omega, ?_⟩
    · rw [hfound, hm]
      rfl
    · rw [hcolumn, Nat.add_sub_cancel, hplace]

/-- The inner pair of marks cancels, and the outer two then do not. -/
theorem unpaired_of_residue_interleaved :
    let o : QuotationOptions := ⟨['"', '\x60'], true⟩
    let d := (Bundle.empty.read .standard "# \"a\"\nk = b \x60\"\"c\"").1.content
    let found := (findings o d).filter fun x => x.line? = some 2
    o.marks ≠ [] ∧ (d.line? 2).bind (Line.inspected? o.comments) = some "b \x60\"\"c\"" ∧
      found = [.error (some (.atColumn 2 3)) (some "k") (message '\x60')] ∧
      ¬ ReflTransGen Cancels ['\x60', '"', '"', '"'] [] ∧
      ∃ left, IsReduced left ∧ ReflTransGen Cancels ['\x60', '"'] left := by
  intro o d found
  have hvalue : (d.line? 2).bind (Line.inspected? o.comments) = some "b \x60\"\"c\"" := by decide +kernel
  have hfound : found = [.error (some (.atColumn 2 3)) (some "k") (message '\x60')] := by decide +kernel
  have hword : "b \x60\"\"c\"".toList.filter o.marks.contains = ['\x60', '"', '"', '"'] := by decide +kernel
  obtain ⟨line, hline, hinspected⟩ := Option.bind_eq_some_iff.1 hvalue
  obtain ⟨hiff, left, hreduced, hreaches, -⟩ := unpaired_of_residue (by decide : o.marks ≠ []) hline hinspected
  rw [hword] at hiff hreaches
  refine ⟨by decide, hvalue, hfound, ?_, left, hreduced, hreaches _ ?_⟩
  · intro hcancels
    have hnone : found = [] := hiff.2 hcancels
    rw [hfound] at hnone
    cases hnone
  · exact .single (.pair ['\x60'] '"' ['"'])

end BundleCheck.QuotationMarks
