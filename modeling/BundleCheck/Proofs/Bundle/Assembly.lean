import BundleCheck.Proofs.Bundle.Index
import BundleCheck.Proofs.Bundle.Legible
import Mathlib.Data.List.Forall2

/-!
# Contents made from lines

Reading a file and rebuilding it both go over a sequence of lines and drop the entries whose keys they
have met before. Reading does so with the line numbers of the keys in hand and rebuilding with the index
of the content, but since the two agree, what was read is what `ofLines` makes of the lines. Making a
content from the lines of one that was made so gives the same content again.
-/

namespace BundleCheck

namespace Content

variable {d : Content} {marker : String} {line : Line}

/-! ### One line -/

theorem lines_deferAny (d : Content) (key : Option String) : (d.deferAny key).lines = d.lines := by
  cases key with
  | none => rfl
  | some key =>
    rw [deferAny, defer]
    split <;> rfl

theorem take_of_contains {e : Entry} (h : d.contains e.key = true) : d.take marker (.entry e) = d := by
  rw [take, if_pos h]

/-- The line is no entry whose key is taken. -/
def IsFree (d : Content) (line : Line) : Prop := ∀ e, line = .entry e → d.contains e.key = false

theorem take_of_not_isFree (h : ¬ d.IsFree line) : d.take marker line = d := by
  rw [IsFree] at h
  push Not at h
  obtain ⟨e, rfl, he⟩ := h
  exact take_of_contains (Bool.ne_false_iff.1 he)

theorem lines_take (h : d.IsFree line) : (d.take marker line).lines = d.lines ++ [line] := by
  cases line with
  | entry e =>
    rw [take, if_neg (by simp [h e rfl])]
    rfl
  | comment c =>
    show (d.deferAny _).lines ++ [.comment c] = _
    rw [lines_deferAny]
  | blank => rfl

theorem mem_lines_take {l : Line} (h : l ∈ (d.take marker line).lines) : l ∈ d.lines ∨ l = line := by
  by_cases hfree : d.IsFree line
  · rw [lines_take hfree, List.mem_append, List.mem_singleton] at h
    exact h
  · rw [take_of_not_isFree hfree] at h
    exact .inl h

theorem keys_take (h : d.IsFree line) : (d.take marker line).keys = d.keys ++ keysOf [line] := by
  cases line with
  | entry e =>
    rw [take, if_neg (by simp [h e rfl])]
    rfl
  | comment c =>
    show (d.deferAny _).keys = _
    rw [keys_deferAny, keysOf_comment, List.append_nil]
  | blank =>
    rw [keysOf_blank, List.append_nil]
    rfl

/-- The recorded keys with one more, unless it is among them. -/
def recorded (keys : List String) (key : String) : List String := if keys.contains key then keys else keys ++ [key]

theorem mem_recorded {keys : List String} {own key : String} : key ∈ recorded keys own ↔ key ∈ keys ∨ own = key := by
  rw [recorded]
  split
  · rename_i hcontains
    refine ⟨.inl, ?_⟩
    rintro (hkey | rfl)
    · exact hkey
    · exact List.contains_iff_mem.1 hcontains
  · rw [List.mem_append, List.mem_singleton, eq_comm]

theorem eraseDups_concat (keys : List String) (key : String) :
    (keys ++ [key]).eraseDups = recorded keys.eraseDups key := by
  rw [List.eraseDups_append, recorded, List.removeAll]
  by_cases hkey : key ∈ keys
  · simp [hkey]
  · simp [hkey, List.eraseDups_cons]

theorem Coherent.keys_take (hd : d.Coherent) (marker : String) (line : Line) :
    (d.take marker line).keys = line.key?.elim d.keys (recorded d.keys) := by
  cases line with
  | entry e =>
    have hcontains : d.contains e.key = d.keys.contains e.key := by
      rw [Bool.eq_iff_iff, hd.contains_iff, List.contains_iff_mem]
    show (d.take marker (.entry e)).keys = recorded d.keys e.key
    rw [Content.take, recorded, hcontains]
    split <;> rfl
  | comment c => exact keys_deferAny d _
  | blank => rfl

theorem deferred_take (d : Content) (marker : String) (line : Line) :
    (d.take marker line).deferred = (line.deferred? marker).elim d.deferred (recorded d.deferred) := by
  cases line with
  | entry e =>
    rw [take]
    split <;> rfl
  | comment c =>
    show (d.deferAny (Deferral.ofComment? marker c)).deferred = (Deferral.ofComment? marker c).elim _ _
    cases Deferral.ofComment? marker c with
    | none => rfl
    | some key =>
      rw [deferAny, defer, defers, Option.elim_some, recorded]
      split <;> rfl
  | blank => rfl

theorem mem_deferred_take {key : String} :
    key ∈ (d.take marker line).deferred ↔ key ∈ d.deferred ∨ line.deferred? marker = some key := by
  rw [deferred_take]
  cases line.deferred? marker with
  | none => simp
  | some own => rw [Option.elim_some, mem_recorded, Option.some_inj]

/-- Of lines without a repeated key, the first is free and the others have none of its key. -/
theorem isFree_of_nodup (hd : d.Coherent) {rest : List Line} (h : (d.keys ++ keysOf (line :: rest)).Nodup)
    (marker : String) : d.IsFree line ∧ ((d.take marker line).keys ++ keysOf rest).Nodup := by
  rw [keysOf_cons, ← List.append_assoc] at h
  have hfree : d.IsFree line := by
    rintro e rfl
    refine Bool.eq_false_iff.2 fun hcontains => ?_
    have hfront := (List.nodup_append.1 h).1
    exact (List.nodup_append.1 hfront).2.2 _ (hd.contains_iff.1 hcontains) _
      (List.mem_singleton_self e.key) rfl
  exact ⟨hfree, by rwa [keys_take hfree]⟩

/-! ### Many lines -/

theorem mem_deferred_foldl_take (marker : String) (lines : List Line) {d : Content} {key : String} :
    key ∈ (lines.foldl (take marker) d).deferred ↔
      key ∈ d.deferred ∨ ∃ line ∈ lines, line.deferred? marker = some key := by
  induction lines generalizing d with
  | nil => simp
  | cons line rest ih => rw [List.foldl_cons, ih, mem_deferred_take, or_assoc, List.exists_mem_cons_iff]

theorem mem_deferred_ofLines {marker : String} {lines : List Line} {key : String} :
    key ∈ (ofLines marker lines).deferred ↔ ∃ line ∈ lines, line.deferred? marker = some key := by
  rw [ofLines, mem_deferred_foldl_take]
  simp [empty]

/-- What is deferred in the end is told by what the lines defer, one after the other. -/
theorem deferred_foldl_take (marker : String) (lines : List Line) (d : Content) :
    (lines.foldl (take marker) d).deferred = (lines.filterMap (Line.deferred? marker)).foldl recorded d.deferred := by
  induction lines generalizing d with
  | nil => rfl
  | cons line rest ih =>
    rw [List.foldl_cons, ih, deferred_take]
    cases hkey : line.deferred? marker with
    | none => rw [List.filterMap_cons_none hkey, Option.elim_none]
    | some key => rw [List.filterMap_cons_some hkey, List.foldl_cons, Option.elim_some]

/-- What is kept of some lines makes up the same content as all of them. -/
theorem exists_kept (marker : String) (lines : List Line) (d : Content) :
    ∃ kept, kept.Sublist lines ∧ (lines.foldl (take marker) d).lines = d.lines ++ kept ∧
      kept.foldl (take marker) d = lines.foldl (take marker) d := by
  induction lines generalizing d with
  | nil => exact ⟨[], List.Sublist.refl _, by simp, rfl⟩
  | cons line rest ih =>
    obtain ⟨kept, hsub, hlines, hfold⟩ := ih (d.take marker line)
    rw [List.foldl_cons, hlines]
    by_cases hfree : d.IsFree line
    · refine ⟨line :: kept, hsub.cons_cons _, ?_, hfold⟩
      rw [lines_take hfree, List.append_assoc, List.singleton_append]
    · rw [take_of_not_isFree hfree] at hfold ⊢
      exact ⟨kept, hsub.cons _, rfl, hfold⟩

theorem lines_ofLines_sublist (marker : String) (lines : List Line) :
    (ofLines marker lines).lines.Sublist lines := by
  obtain ⟨kept, hsub, hlines, -⟩ := exists_kept marker lines empty
  rw [ofLines, hlines]
  exact hsub

/-- A content that lines make up is made up by its own lines. -/
theorem ofLines_lines (marker : String) (lines : List Line) :
    ofLines marker (ofLines marker lines).lines = ofLines marker lines := by
  obtain ⟨kept, -, hlines, hfold⟩ := exists_kept marker lines empty
  rw [ofLines, ofLines, hlines]
  exact hfold

/-- Lines without a repeated key are all kept. -/
theorem lines_foldl_take (marker : String) (lines : List Line) {d : Content} (hd : d.Coherent)
    (hnodup : (d.keys ++ keysOf lines).Nodup) :
    (lines.foldl (take marker) d).lines = d.lines ++ lines := by
  induction lines generalizing d with
  | nil => simp
  | cons line rest ih =>
    obtain ⟨hfree, hrest⟩ := isFree_of_nodup hd hnodup marker
    rw [List.foldl_cons, ih (hd.take marker line) hrest, lines_take hfree, List.append_assoc,
      List.singleton_append]

theorem lines_ofLines {lines : List Line} (h : (keysOf lines).Nodup) (marker : String) :
    (ofLines marker lines).lines = lines :=
  lines_foldl_take marker lines Coherent.empty h

end Content

/-! ### Reading -/

/-- The lines that some texts are read as, where all of them can be read. -/
def ReadsAs (marker : String) (texts : List (List Char)) (lines : List Line) : Prop :=
  List.Forall₂ (fun text line => ∃ r, ReadLine.ofText marker text = .ok r ∧ r.line = line) texts lines

namespace Reading

variable {r : Reading} {marker : String}

theorem content_add (hr : r.Coherent) (number : Nat) {l : ReadLine}
    (hl : l.deferred? = l.line.deferred? marker) : (r.add number l).content = r.content.take marker l.line := by
  cases l with
  | entry e =>
    have hsome : (r.sources.lookup e.key).isSome = r.content.contains e.key :=
      Bool.eq_iff_iff.2 ((hr.isSome_lookup e.key).trans hr.content.contains_iff.symm)
    cases hlookup : r.sources.lookup e.key with
    | some first =>
      rw [hlookup] at hsome
      simp only [add, hlookup, ReadLine.line, Content.take, ← hsome, Option.isSome_some, if_true]
    | none =>
      rw [hlookup] at hsome
      simp only [add, hlookup, ReadLine.line, Content.take, ← hsome, Option.isSome_none,
        Bool.false_eq_true, if_false]
  | comment c deferred =>
    show (r.content.deferAny deferred).pushComment c = _
    rw [show deferred = Deferral.ofComment? marker c from hl]
    rfl
  | blank => rfl

theorem repeated_add (hr : r.Coherent) (number : Nat) {l : ReadLine}
    (hl : r.content.IsFree l.line) : (r.add number l).repeated = r.repeated := by
  cases l with
  | entry e =>
    cases hlookup : r.sources.lookup e.key with
    | some first =>
      have hmem := (hr.isSome_lookup e.key).1 (by rw [hlookup]; rfl)
      rw [← hr.content.contains_iff, hl e rfl] at hmem
      cases hmem
    | none => simp only [add, hlookup]
  | comment c deferred => rfl
  | blank => rfl

/-- Texts that can all be read make up what their lines make up. -/
theorem addLines_of_readsAs {texts : List (List Char)} {lines : List Line}
    (h : ReadsAs marker texts lines) (hr : r.Coherent) (number : Nat) :
    (r.addLines marker number texts).2 = none ∧
      (r.addLines marker number texts).1.content = lines.foldl (Content.take marker) r.content := by
  induction h generalizing r number with
  | nil => exact ⟨rfl, rfl⟩
  | @cons text line texts lines hline _ ih =>
    obtain ⟨l, hl, rfl⟩ := hline
    have hadd := content_add hr number (ReadLine.deferred?_of_ofText hl)
    rw [addLines, hl, List.foldl_cons, ← hadd]
    exact ih (hr.add number l) (number + 1)

theorem repeated_addLines {texts : List (List Char)} {lines : List Line}
    (h : ReadsAs marker texts lines) (hr : r.Coherent) (number : Nat)
    (hnodup : (r.content.keys ++ keysOf lines).Nodup) :
    (r.addLines marker number texts).1.repeated = r.repeated := by
  induction h generalizing r number with
  | nil => rfl
  | @cons text line texts lines hline _ ih =>
    obtain ⟨l, hl, rfl⟩ := hline
    have hadd := content_add hr number (ReadLine.deferred?_of_ofText hl)
    obtain ⟨hfree, hrest⟩ := Content.isFree_of_nodup hr.content hnodup marker
    rw [addLines, hl, ← repeated_add hr number hfree]
    refine ih (hr.add number l) (number + 1) ?_
    rwa [hadd]

/-- What has been read is legible, even if a later line cannot be read. -/
theorem legible_addLines {texts : List (List Char)} (htexts : ∀ text ∈ texts, '\n' ∉ text) (hr : r.Coherent)
    (hlegible : ∀ l ∈ r.content.lines, l.Legible) (number : Nat) :
    ∀ l ∈ (r.addLines marker number texts).1.content.lines, l.Legible := by
  induction texts generalizing r number with
  | nil => exact hlegible
  | cons text texts ih =>
    obtain ⟨htext, htexts⟩ := List.forall_mem_cons.1 htexts
    rw [addLines]
    split
    · exact hlegible
    · rename_i read hread
      refine ih htexts (hr.add number read) (fun l hl => ?_) (number + 1)
      rw [content_add hr number (ReadLine.deferred?_of_ofText hread)] at hl
      rcases Content.mem_lines_take hl with hl | rfl
      · exact hlegible l hl
      · exact ReadLine.legible_of_ofText htext hread

theorem legible_ofText (marker text : String) :
    ∀ l ∈ (Reading.ofText marker text).1.content.lines, l.Legible :=
  legible_addLines (fun _ => Text.not_mem_of_mem_lines) Coherent.start
    (fun _ hl => absurd hl List.not_mem_nil) 1

theorem readsAs_of_addLines {texts : List (List Char)} {number : Nat}
    (h : (r.addLines marker number texts).2 = none) : ∃ lines, ReadsAs marker texts lines := by
  induction texts generalizing r number with
  | nil => exact ⟨[], .nil⟩
  | cons text texts ih =>
    rw [addLines] at h
    split at h
    · cases h
    · rename_i l hl
      obtain ⟨lines, hlines⟩ := ih h
      exact ⟨l.line :: lines, .cons ⟨l, hl, rfl⟩ hlines⟩

end Reading

end BundleCheck
