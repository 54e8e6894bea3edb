import BundleCheck.Bundle.Basic
import BundleCheck.Proofs.Check.Inspection
import BundleCheck.Proofs.Text.Offsets

/-!
# White space before line breaks

The search for white space before a break begins with the break: it goes from one written break to the next, by their
offsets in bytes, and looks at the character before each. What it comes to is said without any of that. A blank or a
tab with the break right behind it is such a place, the first of these is reported, and its column is the number
of characters up to it. A value that holds one has three characters at least, so leaving out shorter values
loses nothing.
-/

namespace BundleCheck

namespace WhiteSpaceBeforeBreak

def White.char : White → Char
  | space => ' '
  | tab => '\t'

theorem White.ofChar?_eq_some_iff {c : Char} {white : White} : White.ofChar? c = some white ↔ c = white.char := by
  unfold ofChar?
  split
  · rename_i hc
    subst hc
    cases white <;> decide
  · split
    · rename_i hc
      subst hc
      cases white <;> decide
    · cases white <;> simp [White.char, *]

/-- The text before a white character of a value that has the break right behind it. -/
def IsWhiteBefore (b : Break) (value before : List Char) (white : White) : Prop :=
  ∃ after, value = before ++ white.char :: (b.literal ++ after)

/-- The first white character of a value that has the break right behind it. -/
structure IsFirst (b : Break) (value before : List Char) (white : White) : Prop where
  isWhiteBefore : IsWhiteBefore b value before white
  first : ∀ before' white', IsWhiteBefore b value before' white' → before.length ≤ before'.length

variable {b : Break} {white : White} {value front rest : List Char} {offset column : Nat}

/-- A value with a white character before a break is never too short to be searched. -/
theorem IsWhiteBefore.shortest_le {before : List Char} (h : IsWhiteBefore b value before white) :
    shortest ≤ value.length := by
  obtain ⟨after, rfl⟩ := h
  simp [shortest, Break.literal]
  omega

/-! ### The search -/

theorem Break.notMem_tail_literal (b : Break) : '\\' ∉ [b.letter] := by
  cases b <;> decide

theorem Break.mem_offsets_literal_iff : offset ∈ Text.offsets b.literal value ↔
    ∃ front after, value = front ++ (b.literal ++ after) ∧ offset = Text.byteLength front :=
  Text.mem_offsets_iff b.notMem_tail_literal

theorem Break.pairwise_offsets_literal (b : Break) (value : List Char) :
    (Text.offsets b.literal value).Pairwise (· < ·) :=
  Text.pairwise_offsets b.notMem_tail_literal value

theorem whiteBefore?_eq_some_iff : whiteBefore? (front ++ rest) (Text.byteLength front) = some (white, offset) ↔
    ∃ before, front = before ++ [white.char] ∧ offset = Text.byteLength before := by
  rw [whiteBefore?, Text.upTo_byteLength]
  obtain rfl | ⟨before, c, rfl⟩ := front.eq_nil_or_concat'
  · simp
  · have hoffset : Text.byteLength (before ++ [c]) - c.utf8Size = Text.byteLength before := by
      rw [Text.byteLength_append]
      exact Nat.add_sub_cancel _ c.utf8Size
    simp only [List.getLast?_concat, Option.bind_eq_bind, Option.bind_some, hoffset, Option.bind_eq_some_iff,
      White.ofChar?_eq_some_iff, Option.some.injEq, Prod.mk.injEq]
    constructor
    · rintro ⟨white, rfl, rfl, rfl⟩
      exact ⟨before, rfl, rfl⟩
    · rintro ⟨before', happend, rfl⟩
      obtain ⟨rfl, hc⟩ := List.append_inj' happend rfl
      exact ⟨white, List.singleton_inj.1 hc, rfl, rfl⟩

/-- At the offset of a break there is a white character exactly if the break comes right behind one. -/
theorem whiteBefore?_eq_none_iff : whiteBefore? (front ++ rest) (Text.byteLength front) = none ↔
    ∀ before white, front ≠ before ++ [White.char white] := by
  rw [Option.eq_none_iff_forall_ne_some]
  constructor
  · rintro h before white rfl
    exact h _ (whiteBefore?_eq_some_iff.2 ⟨before, rfl, rfl⟩)
  · rintro h ⟨white, offset⟩ hwhite
    obtain ⟨before, hfront, -⟩ := whiteBefore?_eq_some_iff.1 hwhite
    exact h before white hfront

theorem first?_eq_none_iff : first? b value = none ↔ ∀ before white, ¬ IsWhiteBefore b value before white := by
  rw [first?, Option.map_eq_none_iff, List.findSome?_eq_none_iff]
  constructor
  · rintro h before white ⟨after, rfl⟩
    have hsplit : before ++ white.char :: (b.literal ++ after) = before ++ [white.char] ++ (b.literal ++ after) :=
      (List.append_assoc before [white.char] _).symm
    have hnone := h _ (Break.mem_offsets_literal_iff.2 ⟨before ++ [white.char], after, hsplit, rfl⟩)
    rw [hsplit, whiteBefore?_eq_none_iff] at hnone
    exact hnone before white rfl
  · intro h offset hoffset
    obtain ⟨front, after, rfl, rfl⟩ := Break.mem_offsets_literal_iff.1 hoffset
    rw [whiteBefore?_eq_none_iff]
    rintro before white rfl
    exact h before white ⟨after, List.append_assoc before [white.char] _⟩

/-- What a search through increasing offsets has found, it has found at none before. -/
theorem exists_of_findSome? {α : Type} {f : Nat → Option α} {offsets : List Nat} {a : α}
    (hoffsets : offsets.Pairwise (· < ·)) (h : offsets.findSome? f = some a) :
    ∃ offset ∈ offsets, f offset = some a ∧ ∀ offset' ∈ offsets, offset' < offset → f offset' = none := by
  obtain ⟨passed, offset, later, rfl, hfound, hpassed⟩ := List.findSome?_eq_some_iff.1 h
  refine ⟨offset, List.mem_append_right _ List.mem_cons_self, hfound, fun offset' hmem hlt => ?_⟩
  rcases List.mem_append.1 hmem with hmem | hmem
  · exact hpassed offset' hmem
  · have hle : offset ≤ offset' := by
      rcases List.mem_cons.1 hmem with rfl | hmem
      · exact Nat.le_refl _
      · exact Nat.le_of_lt (List.rel_of_pairwise_cons (List.pairwise_append.1 hoffsets).2.1 hmem)
    exact absurd hlt (Nat.not_lt_of_le hle)

/-- The search ends at the first white character that has the break behind it. -/
theorem isFirst_of_first? (h : first? b value = some (white, column)) :
    ∃ before, IsFirst b value before white ∧ column = before.length + 1 := by
  obtain ⟨⟨white, offset⟩, hsearch, hpair⟩ := Option.map_eq_some_iff.1 h
  obtain ⟨rfl, rfl⟩ := Prod.mk.inj hpair
  obtain ⟨_, hfound, hwhite, hnone⟩ := exists_of_findSome? (Break.pairwise_offsets_literal b value) hsearch
  obtain ⟨front, after, rfl, rfl⟩ := Break.mem_offsets_literal_iff.1 hfound
  obtain ⟨before, rfl, rfl⟩ := whiteBefore?_eq_some_iff.1 hwhite
  rw [List.append_assoc] at *
  refine ⟨before, ⟨⟨after, rfl⟩, fun before' white' hother => ?_⟩, Text.column_byteLength before _⟩
  -- Another such place further to the front would have been met before, and would have ended the search.
  by_contra hlt
  rw [Nat.not_le] at hlt
  obtain ⟨after', hsplit⟩ := hother
  have hsplit : before ++ ([white.char] ++ (b.literal ++ after)) =
      before' ++ [white'.char] ++ (b.literal ++ after') := by
    rw [hsplit, List.append_assoc]
    rfl
  have hstarts : before' ++ [white'.char] <+: before ++ [white.char] := by
    refine List.prefix_of_prefix_length_le (List.prefix_append _ (b.literal ++ after')) ?_ ?_
    · rw [← hsplit, ← List.append_assoc]
      exact List.prefix_append _ _
    · simp
      omega
  have hbefore := Text.byteLength_lt_of_prefix hstarts (by simpa using hlt)
  have hmissed := hnone _ (Break.mem_offsets_literal_iff.2 ⟨_, after', hsplit, rfl⟩) hbefore
  rw [hsplit, whiteBefore?_eq_none_iff] at hmissed
  exact hmissed before' white' rfl

/-! ### The findings -/

/-- What is found before one of the breaks. -/
def foundBefore (value : List Char) (number : Nat) (key : Option String) (b : Break) : List Finding :=
  (first? b value).toList.map fun (white, column) => .warning (some (.atColumn number column)) key (message white b)

theorem foundBefore_cases (value : List Char) (number : Nat) (key : Option String) (b : Break) :
    (foundBefore value number key b = [] ∧ ∀ before white, ¬ IsWhiteBefore b value before white) ∨
      ∃ before white, IsFirst b value before white ∧ foundBefore value number key b =
        [.warning (some (.atColumn number (before.length + 1))) key (message white b)] := by
  cases hfirst : first? b value with
  | none => exact .inl ⟨by rw [foundBefore, hfirst]; rfl, first?_eq_none_iff.1 hfirst⟩
  | some place =>
    obtain ⟨white, column⟩ := place
    obtain ⟨before, hbefore, rfl⟩ := isFirst_of_first? hfirst
    exact .inr ⟨before, white, hbefore, by rw [foundBefore, hfirst]; rfl⟩

/-- The early exit leaves out values in which nothing would be found. -/
theorem inspectLine_eq {o : CommentOptions} {number : Nat} {line : Line} {value : String}
    (hvalue : line.inspected? o.comments = some value) :
    inspectLine o number line = foundBefore value.toList number line.key? .lineFeed ++
      foundBefore value.toList number line.key? .carriageReturn := by
  rw [inspectLine, hvalue]
  simp only
  split
  · rename_i hshort
    have hnone : ∀ b, foundBefore value.toList number line.key? b = [] := by
      intro b
      rcases foundBefore_cases value.toList number line.key? b with ⟨hnone, -⟩ | ⟨before, white, hfirst, -⟩
      · exact hnone
      · have hlong := hfirst.isWhiteBefore.shortest_le
        rw [String.length_toList] at hlong
        exact absurd hshort (Nat.not_lt_of_le hlong)
    rw [hnone, hnone]
    rfl
  · rw [List.filterMap_eq_flatMap_toList, List.flatMap_cons, List.flatMap_singleton, foundBefore, foundBefore]
    congr 1 <;> exact Option.toList_map ..

end WhiteSpaceBeforeBreak

namespace Check

open WhiteSpaceBeforeBreak

/-- On a line that is inspected, and on no other, there is for each of the two breaks one warning if a white character
of the value has that break right behind it, and none otherwise. The warning is at the first such character and calls
it by its name. No value that is left out for being short holds one. -/
theorem white_space_found_before_breaks (o : CommentOptions) (d : Content) (reference : Option Content) :
    ∃ found, (whiteCharsBeforeLinefeed o).run d reference = .ok ⟨CheckName.whiteCharsBeforeLinefeed.label, found⟩ ∧
      (∀ x ∈ found, ∃ number line value, d.line? number = some line ∧ line.inspected? o.comments = some value ∧
        x.line? = some number) ∧
      ∀ number line value, d.line? number = some line → line.inspected? o.comments = some value →
        (value.length < shortest → ∀ b before white, ¬ IsWhiteBefore b value.toList before white) ∧
        ∃ foundAt : Break → List Finding,
          found.filter (fun x => x.line? = some number) = foundAt .lineFeed ++ foundAt .carriageReturn ∧
          ∀ b, (foundAt b = [] ∧ ∀ before white, ¬ IsWhiteBefore b value.toList before white) ∨
            ∃ before white, IsFirst b value.toList before white ∧
              foundAt b = [.warning (some (.atColumn number (before.length + 1))) line.key? (message white b)] := by
  refine ⟨findings o d, rfl, fun x hx => (inspects o).exists_inspected hx, fun number line value hline hvalue => ?_⟩
  refine ⟨fun hshort b before white hwhite => ?_, foundBefore value.toList number line.key?, ?_,
    foundBefore_cases value.toList number line.key?⟩
  · have hlong := hwhite.shortest_le
    rw [String.length_toList] at hlong
    exact Nat.not_lt_of_le hlong hshort
  · rw [findings, Content.filter_inspect (inspects o).pointing, hline, Option.elim_some, inspectLine_eq hvalue]

/-- A blank before the second of three line feeds, and a tab before the carriage return. -/
theorem white_space_found_before_breaks_adjacent :
    let value := "é\\n \\n\\n\t\\r"
    let d := (Bundle.empty.read .standard ("k = " ++ value)).1.content
    ∃ found, (whiteCharsBeforeLinefeed ⟨false⟩).run d none = .ok ⟨"WhiteCharsBeforeLinefeed", found⟩ ∧
      found = [.warning (some (.atColumn 1 4)) (some "k") "SPACE found before \"\\n\".",
        .warning (some (.atColumn 1 9)) (some "k") "TAB found before \"\\r\"."] ∧
      ∃ before white, IsFirst .lineFeed value.toList before white ∧ before.length = 3 := by
  intro value d
  have hvalue : (d.line? 1).bind (Line.inspected? false) = some value := by decide +kernel
  have hfound : (whiteCharsBeforeLinefeed ⟨false⟩).run d none = .ok ⟨"WhiteCharsBeforeLinefeed",
      [.warning (some (.atColumn 1 4)) (some "k") "SPACE found before \"\\n\".",
        .warning (some (.atColumn 1 9)) (some "k") "TAB found before \"\\r\"."]⟩ := by decide +kernel
  have hblank : IsWhiteBefore .lineFeed value.toList ['é', '\\', 'n'] .space :=
    ⟨['\\', 'n', '\t', '\\', 'r'], by decide⟩
  obtain ⟨line, hline, hinspected⟩ := Option.bind_eq_some_iff.1 hvalue
  obtain ⟨found, hrun, -, hlines⟩ := white_space_found_before_breaks ⟨false⟩ d none
  obtain ⟨-, foundAt, honLine, hbreaks⟩ := hlines 1 line value hline hinspected
  have hsame : found = _ := congrArg Section.findings (Except.ok.inj (hrun.symm.trans hfound))
  refine ⟨found, hrun, hsame, ?_⟩
  rcases hbreaks .lineFeed with ⟨-, hnone⟩ | ⟨before, white, hfirst, hat⟩
  · exact absurd hblank (hnone _ _)
  · refine ⟨before, white, hfirst, ?_⟩
    rw [hsame, hat] at honLine
    have hposition := congrArg (fun found => found.head?.bind Finding.position) honLine
    have hcolumn := congrArg (fun position => position.bind Position.column) hposition
    exact (Nat.succ.inj (Option.some.inj hcolumn)).symm

end Check

end BundleCheck
