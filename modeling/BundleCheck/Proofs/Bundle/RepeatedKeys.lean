import BundleCheck.Proofs.Bundle.Numbering

/-!
# Keys that come again

Of the lines of a file those are left out of the content that repeat a key, and each of them is reported with its own
number and that of the line where its key comes first. Nothing else is left out and nothing else is reported, so lines
that are kept and findings together are as many as the lines of the file.
-/

namespace BundleCheck

/-- The number of the first line with the key, counted from one. -/
def numberOf? (lines : List Line) (key : String) : Option Nat :=
  (lines.findIdx? fun line => line.key? = some key).map (· + 1)

/-- Whether the line with this number has a key that an earlier one of the lines has. -/
def comesAgain (lines : List Line) (p : Line × Nat) : Bool := p.1.repeats (keysOf (lines.take (p.2 - 1)))

/-- What is found at a line that is left out: its number and its key, and where the key comes first. -/
def Reports (lines : List Line) (p : Nat × Line) (x : Finding) : Prop :=
  ∃ key first, p.2.key? = some key ∧ numberOf? lines key = some first ∧ x = Reading.repeatedKey p.1 first key

variable {lines before : List Line} {line : Line} {key : String} {first : Nat}

/-! ### First lines -/

theorem numberOf?_concat (before : List Line) (line : Line) (key : String) :
    numberOf? (before ++ [line]) key =
      (numberOf? before key).or (if line.key? = some key then some (before.length + 1) else none) := by
  rw [numberOf?, List.findIdx?_append, List.findIdx?_singleton, numberOf?]
  cases before.findIdx? fun line => line.key? = some key with
  | some place => rfl
  | none => by_cases hkey : line.key? = some key <;> simp [hkey]

theorem isSome_numberOf? : (numberOf? lines key).isSome = true ↔ key ∈ keysOf lines := by
  rw [numberOf?, Option.isSome_map, List.findIdx?_isSome, keysOf, List.any_eq_true, List.mem_filterMap]
  simp only [decide_eq_true_eq]

theorem count_keysOf (lines : List Line) (key : String) :
    (keysOf lines).count key = lines.countP fun line => line.key? = some key := by
  simp only [keysOf, List.count_filterMap, beq_eq_decide]

/-- Where a key comes first is an entry with this key, and one whose key does not come again. -/
theorem exists_entry_of_numberOf? (h : numberOf? lines key = some first) :
    ∃ e, (.entry e, first) ∈ lines.zipIdx 1 ∧ e.key = key ∧ comesAgain lines (.entry e, first) = false := by
  obtain ⟨i, hfind, rfl⟩ := Option.map_eq_some_iff.1 h
  obtain ⟨hlt, hkey, hbefore⟩ := List.findIdx?_eq_some_iff_getElem.1 hfind
  rw [decide_eq_true_eq] at hkey
  have hnew : key ∉ keysOf (lines.take i) := by
    intro hmem
    obtain ⟨j, hj, hown⟩ := mem_keysOf_take.1 hmem
    rw [List.getElem?_eq_getElem (Nat.lt_trans hj hlt), Option.bind_some] at hown
    exact hbefore j hj (decide_eq_true hown)
  have hline : lines[i]? = some lines[i] := List.getElem?_eq_getElem hlt
  cases hentry : lines[i] with
  | entry e =>
    rw [hentry] at hkey hline
    obtain rfl : e.key = key := Option.some.inj hkey
    refine ⟨e, List.mk_mem_zipIdx_iff_le_and_getElem?_sub.2 ⟨Nat.le_add_left 1 i, hline⟩, rfl, ?_⟩
    rw [comesAgain, ← Bool.not_eq_true, Line.repeats_eq_true_iff]
    rintro ⟨own, hown, hmem⟩
    exact hnew (Option.some.inj hown ▸ hmem)
  | comment c =>
    rw [hentry] at hkey
    cases hkey
  | blank =>
    rw [hentry] at hkey
    cases hkey

/-- Later lines do not change where a key comes first. -/
theorem Reports.concat {p : Nat × Line} {x : Finding} (h : Reports before p x) (line : Line) :
    Reports (before ++ [line]) p x := by
  obtain ⟨key, first, hkey, hfirst, rfl⟩ := h
  exact ⟨key, first, hkey, by rw [numberOf?_concat, hfirst, Option.some_or], rfl⟩

/-! ### Lines that are left out -/

theorem numbered_true_eq (lines : List Line) :
    numbered true [] 1 lines = ((lines.zipIdx 1).filter (comesAgain lines)).map Prod.swap := by
  rw [numbered_eq]
  congr 2
  funext p
  rw [List.nil_append, Bool.decide_eq_true, comesAgain]

theorem numbered_false_eq (lines : List Line) :
    numbered false [] 1 lines = ((lines.zipIdx 1).filter fun p => !comesAgain lines p).map Prod.swap := by
  rw [numbered_eq]
  congr 2
  funext p
  rw [List.nil_append, Bool.decide_eq_false, comesAgain]

namespace Reading

variable {r : Reading} {marker : String} {texts : List (List Char)}

/-- Where a finding of the reading is, and which key it names. -/
def place (x : Finding) : Option Position × Option String := (x.position, x.key)

/-! ### One line -/

theorem lookup_add (r : Reading) (number : Nat) (l : ReadLine) (key : String) :
    (r.add number l).sources.lookup key =
      (r.sources.lookup key).or (if l.line.key? = some key then some number else none) := by
  cases l with
  | entry e =>
    have hkey : (Line.entry e).key? = some key ↔ key = e.key := by
      rw [show (Line.entry e).key? = some e.key from rfl, Option.some_inj, eq_comm]
    show _ = (r.sources.lookup key).or (if (Line.entry e).key? = some key then some number else none)
    simp only [hkey]
    cases hlookup : r.sources.lookup e.key with
    | some first =>
      simp only [add, hlookup]
      split
      · rename_i heq
        rw [heq, hlookup, Option.some_or]
      · rw [Option.or_none]
    | none =>
      simp only [add, hlookup, List.lookup_cons]
      split
      · rename_i heq
        rw [if_pos (beq_iff_eq.1 heq), beq_iff_eq.1 heq, hlookup, Option.none_or]
      · rename_i hne
        rw [if_neg (beq_eq_false_iff_ne.1 hne), Option.or_none]
  | comment c deferred => exact (Option.or_none).symm
  | blank => exact (Option.or_none).symm

theorem repeated_add_of_not_isFree (hr : r.Coherent) {l : ReadLine} (hl : ¬ r.content.IsFree l.line) (number : Nat) :
    ∃ key first, l.line.key? = some key ∧ r.sources.lookup key = some first ∧
      (r.add number l).repeated = r.repeated ++ [repeatedKey number first key] := by
  rw [Content.IsFree] at hl
  push Not at hl
  obtain ⟨e, he, hcontains⟩ := hl
  cases l with
  | entry own =>
    obtain rfl : own = e := Line.entry.inj he
    have hsome := (hr.isSome_lookup own.key).2 (hr.content.contains_iff.1 (Bool.ne_false_iff.1 hcontains))
    obtain ⟨first, hfirst⟩ := Option.isSome_iff_exists.1 hsome
    exact ⟨own.key, first, rfl, hfirst, by simp only [add, hfirst]⟩
  | comment c deferred => cases he
  | blank => cases he

/-- The reading has come to the end of some lines: those that repeat no key are its content, the others are reported,
and the first line of each key is known. -/
structure Accounts (r : Reading) (before : List Line) : Prop where
  coherent : r.Coherent
  kept : r.content.lines = (numbered false [] 1 before).map Prod.snd
  keys : r.content.keys = (keysOf before).eraseDups
  first : ∀ key, r.sources.lookup key = numberOf? before key
  reported : List.Forall₂ (Reports before) (numbered true [] 1 before) r.repeated

namespace Accounts

theorem start : Reading.start.Accounts [] := ⟨.start, rfl, rfl, fun _ => rfl, .nil⟩

theorem isFree_iff (h : r.Accounts before) : r.content.IsFree line ↔ line.repeats (keysOf before) = false :=
  h.coherent.content.isFree_iff fun key => by rw [h.keys, List.mem_eraseDups]

theorem first_add (h : r.Accounts before) (l : ReadLine) (key : String) :
    (r.add (before.length + 1) l).sources.lookup key = numberOf? (before ++ [l.line]) key := by
  rw [lookup_add, h.first, numberOf?_concat]

theorem keys_add (h : r.Accounts before) (marker : String) (line : Line) :
    (r.content.take marker line).keys = (keysOf (before ++ [line])).eraseDups := by
  rw [h.coherent.content.keys_take, h.keys, keysOf_append]
  cases hkey : line.key? with
  | none =>
    have hnone : keysOf [line] = [] := List.filterMap_cons_none hkey
    rw [hnone, List.append_nil, Option.elim_none]
  | some key =>
    have hsingle : keysOf [line] = [key] := List.filterMap_cons_some hkey
    rw [hsingle, Content.eraseDups_concat, Option.elim_some]

theorem add (h : r.Accounts before) {l : ReadLine} (hl : l.deferred? = l.line.deferred? marker) :
    (r.add (before.length + 1) l).Accounts (before ++ [l.line]) := by
  have hcontent := content_add h.coherent (before.length + 1) hl
  have hkeys : (r.add (before.length + 1) l).content.keys = (keysOf (before ++ [l.line])).eraseDups := by
    rw [hcontent, h.keys_add]
  have hreported : List.Forall₂ (Reports (before ++ [l.line])) (numbered true [] 1 before) r.repeated :=
    h.reported.imp fun p x hx => hx.concat l.line
  have hkept := numbered_concat false [] 1 before l.line
  have hleft := numbered_concat true [] 1 before l.line
  rw [List.nil_append, Nat.add_comm 1] at hkept hleft
  -- A line that repeats a key comes to the findings only, and any other to the content only.
  by_cases hfree : r.content.IsFree l.line
  · have hrepeats := h.isFree_iff.1 hfree
    rw [if_pos hrepeats] at hkept
    rw [if_neg (by simp [hrepeats]), List.append_nil] at hleft
    refine ⟨h.coherent.add _ l, ?_, hkeys, h.first_add l, ?_⟩
    · rw [hcontent, Content.lines_take hfree, h.kept, hkept, List.map_append]
      rfl
    · rw [hleft, repeated_add h.coherent _ hfree]
      exact hreported
  · have hrepeats := h.isFree_iff.not.1 hfree
    rw [Bool.not_eq_false] at hrepeats
    rw [if_neg (by simp [hrepeats]), List.append_nil] at hkept
    rw [if_pos hrepeats] at hleft
    obtain ⟨key, first, hkey, hfirst, hrepeated⟩ := repeated_add_of_not_isFree h.coherent hfree (before.length + 1)
    refine ⟨h.coherent.add _ l, ?_, hkeys, h.first_add l, ?_⟩
    · rw [hcontent, Content.take_of_not_isFree hfree, h.kept, hkept]
    · rw [hleft, hrepeated]
      have hlast : Reports (before ++ [l.line]) (before.length + 1, l.line)
          (repeatedKey (before.length + 1) first key) :=
        Reports.concat ⟨key, first, hkey, (h.first key).symm.trans hfirst, rfl⟩ l.line
      exact List.rel_append hreported (.cons hlast .nil)

theorem addLines (h : ReadsAs marker texts lines) (hr : r.Accounts before) :
    (r.addLines marker (before.length + 1) texts).1.Accounts (before ++ lines) := by
  induction h generalizing r before with
  | nil =>
    rw [List.append_nil]
    exact hr
  | @cons text line texts lines hline _ ih =>
    obtain ⟨l, hl, rfl⟩ := hline
    have hnext := ih (hr.add (ReadLine.deferred?_of_ofText hl))
    rw [List.length_append, List.append_assoc] at hnext
    rw [Reading.addLines, hl]
    exact hnext

/-- An entry of the content is the first one with its key. -/
theorem entry?_eq (h : r.Accounts lines) (key : String) :
    r.content.entry? key = (numberOf? lines key).bind fun first => lines[first - 1]?.bind Line.entry? := by
  cases hfirst : numberOf? lines key with
  | none =>
    rw [Option.bind_none, h.coherent.content.entry?_eq_none_iff, h.keys, List.mem_eraseDups, ← isSome_numberOf?, hfirst]
    exact Bool.false_ne_true
  | some first =>
    obtain ⟨e, hline, hkey, hkept⟩ := exists_entry_of_numberOf? hfirst
    rw [Option.bind_some, (List.mk_mem_zipIdx_iff_le_and_getElem?_sub.1 hline).2, Option.bind_some]
    refine h.coherent.content.entry?_eq_some_iff.2 ⟨?_, hkey⟩
    rw [h.kept, numbered_false_eq, List.map_map, List.mem_map]
    exact ⟨(.entry e, first), List.mem_filter.2 ⟨hline, by rw [hkept]; rfl⟩, rfl⟩

/-! ### Numbers of findings -/

/-- What the lines that are left out tell of their findings. -/
theorem map_repeated (h : r.Accounts lines) {α : Type} {f : Finding → α} {g : Nat × Line → α}
    (hfg : ∀ p x, Reports lines p x → g p = f x) : r.repeated.map f = (numbered true [] 1 lines).map g := by
  have hmap : List.Forall₂ (· = ·) ((numbered true [] 1 lines).map g) (r.repeated.map f) := by
    rw [List.forall₂_map_left_iff, List.forall₂_map_right_iff]
    exact h.reported.imp hfg
  rw [List.forall₂_eq_eq_eq] at hmap
  exact hmap.symm

theorem map_place (h : r.Accounts lines) :
    r.repeated.map place = (numbered true [] 1 lines).map fun p => (some (.onLine p.1), p.2.key?) := by
  refine h.map_repeated fun p x hx => ?_
  obtain ⟨key, first, hkey, -, rfl⟩ := hx
  rw [hkey]
  rfl

/-- Of the lines with a key one is kept, if there are any, and each of the others is reported. -/
theorem countP_repeated (h : r.Accounts lines) (key : String) :
    r.repeated.countP (fun x => x.key = some key) = (keysOf lines).count key - 1 := by
  have hplaces := congrArg (List.countP fun place => place.2 = some key) h.map_place
  rw [List.countP_map, List.countP_map] at hplaces
  have hkept : (numbered false [] 1 lines).countP (fun p => p.2.key? = some key) = r.content.keys.count key := by
    rw [h.coherent.content.keys_eq, count_keysOf, h.kept, List.countP_map]
    rfl
  have hsplit : r.repeated.countP (fun x => x.key = some key) + r.content.keys.count key =
      (keysOf lines).count key := by
    rw [count_keysOf, ← countP_numbered [] 1, hkept]
    exact congrArg (· + _) hplaces
  have hmem : key ∈ r.content.keys ↔ key ∈ keysOf lines := by rw [h.keys, List.mem_eraseDups]
  have hone : r.content.keys.count key = if key ∈ r.content.keys then 1 else 0 :=
    h.coherent.content.keys_nodup.count
  by_cases hkey : key ∈ keysOf lines
  · rw [if_pos (hmem.2 hkey)] at hone
    omega
  · rw [List.count_eq_zero.2 hkey] at hsplit ⊢
    omega

/-- All findings are errors, and each line is a line of the content or has one. -/
theorem length_add_errors (h : r.Accounts lines) :
    r.content.lines.length + r.repeatedKeys.errors = lines.length := by
  have hseverities := h.map_repeated (f := Finding.severity) (g := fun _ => .error) fun p x hx => by
    obtain ⟨key, first, -, -, rfl⟩ := hx
    rfl
  have herrors : r.repeatedKeys.errors = (numbered true [] 1 lines).length := by
    have hcount := congrArg (List.countP (· = .error)) hseverities
    rw [List.countP_map, List.countP_map] at hcount
    exact hcount.trans (List.countP_eq_length.2 fun _ _ => rfl)
  have hsplit := countP_numbered [] 1 lines fun _ => true
  rw [h.kept, herrors, List.length_map]
  simp only [List.countP_true] at hsplit
  omega

end Accounts

end Reading

/-! ### Documents -/

/-- Only a section that holds something comes into a report. -/
theorem Report.empty_add (found : Section) :
    Report.empty.add found = ⟨if found.findings = [] then [] else [found]⟩ := by
  obtain ⟨label, findings⟩ := found
  cases findings <;> rfl

theorem Report.errors_empty_add (found : Section) : (Report.empty.add found).errors = found.errors := by
  rw [empty_add, errors, total]
  split
  · rename_i hnone
    rw [Section.errors, hnone]
    rfl
  · exact Nat.add_zero _

namespace Bundle

variable {b : Bundle} {s : Settings} {text : String}

theorem exists_accounts_of_read (hread : (b.read s text).2 = none) :
    ∃ lines r, ReadsAs s.deferralMarker (Text.lines text.toList) lines ∧ Reading.Accounts r lines ∧
      (b.read s text).1.content = r.content ∧ (b.read s text).1.report = Report.empty.add r.repeatedKeys := by
  have hstop : (Reading.ofText s.deferralMarker text).2 = none := hread
  obtain ⟨lines, hlines⟩ := Reading.readsAs_of_addLines hstop
  refine ⟨lines, _, hlines, Reading.Accounts.start.addLines hlines, rfl, ?_⟩
  rw [read]
  simp only [hstop]
  rfl

/-- A text is read to its end. Those of its lines are left out of the content whose key an earlier line has, and they
only. Each key that it has is there once, as its first line has it. Every line that is left out is an error with the
number of the line and its key, in the order of the lines, and its message names the first line of the key. So the lines
of the content and the errors are as many as the lines of the text, and a key has one error less than it has lines. -/
theorem read_accounts_for_repeated_keys (hread : (b.read s text).2 = none) :
    let after := (b.read s text).1
    ∃ lines, ReadsAs s.deferralMarker (Text.lines text.toList) lines ∧
      let leftOut := (lines.zipIdx 1).filter (comesAgain lines)
      after.content.lines = ((lines.zipIdx 1).filter fun p => !comesAgain lines p).map Prod.fst ∧
      after.content.keys = (keysOf lines).eraseDups ∧
      (∀ key, after.content.entry? key =
        (numberOf? lines key).bind fun first => lines[first - 1]?.bind Line.entry?) ∧
      (∃ found,
        after.report = ⟨if leftOut = [] then [] else [⟨"Duplicated keys", found⟩]⟩ ∧
        List.Forall₂ (fun p x => ∃ key first, p.1.key? = some key ∧ numberOf? lines key = some first ∧
          x = .error (some (.onLine p.2)) (some key)
            ("Duplicated key, first occurrence at line " ++ toString first ++ ".")) leftOut found ∧
        ∀ key, found.countP (fun x => x.key = some key) = (keysOf lines).count key - 1) ∧
      after.content.lines.length + after.report.errors = (Text.lines text.toList).length := by
  intro after
  obtain ⟨lines, r, hlines, h, hcontent, hreport⟩ := exists_accounts_of_read hread
  have hkept : r.content.lines = ((lines.zipIdx 1).filter fun p => !comesAgain lines p).map Prod.fst := by
    rw [h.kept, numbered_false_eq, List.map_map]
    rfl
  have hreported := h.reported
  rw [numbered_true_eq, List.forall₂_map_left_iff] at hreported
  have hempty : (lines.zipIdx 1).filter (comesAgain lines) = [] ↔ r.repeated = [] := by
    rw [← List.length_eq_zero_iff, hreported.length_eq, List.length_eq_zero_iff]
  refine ⟨lines, hlines, ?_, ?_, ?_, ⟨r.repeated, ?_, hreported, h.countP_repeated⟩, ?_⟩
  · rw [hcontent, hkept]
  · rw [hcontent, h.keys]
  · intro key
    rw [hcontent]
    exact h.entry?_eq key
  · rw [hreport, Report.empty_add]
    simp only [hempty]
    rfl
  · rw [hcontent, hreport, Report.errors_empty_add, h.length_add_errors, hlines.length_eq]

/-- Two keys come again, one of them twice, with a comment and a blank line between and a comment that defers one. -/
theorem read_accounts_for_repeated_keys_interleaved :
    let s : Settings := .standard
    let text := "# Top\na = 1\n\nb = 1\na : 2\n# ==> a =\nb = 2\na = 3\nc = 4"
    let after := (Bundle.empty.read s text).1
    let found : List Finding :=
      [.error (some (.onLine 5)) (some "a") "Duplicated key, first occurrence at line 2.",
        .error (some (.onLine 7)) (some "b") "Duplicated key, first occurrence at line 4.",
        .error (some (.onLine 8)) (some "a") "Duplicated key, first occurrence at line 2."]
    (Bundle.empty.read s text).2 = none ∧ after.report = ⟨[⟨"Duplicated keys", found⟩]⟩ ∧
      after.content.lines.length + after.report.errors = 9 ∧
      ∃ lines, ReadsAs s.deferralMarker (Text.lines text.toList) lines ∧
        (keysOf lines).eraseDups = ["a", "b", "c"] ∧
        ((lines.zipIdx 1).filter (comesAgain lines)).length = 3 ∧ (keysOf lines).count "a" - 1 = 2 := by
  intro s text after found
  have hread : (Bundle.empty.read s text).2 = none := by decide +kernel
  have hconcrete : after.report = ⟨[⟨"Duplicated keys", found⟩]⟩ := by decide +kernel
  obtain ⟨lines, hlines, -, hkeys, -, ⟨own, hreport, hown, hcount⟩, hsum⟩ := read_accounts_for_repeated_keys hread
  have heq := hreport.symm.trans hconcrete
  split at heq
  · cases heq
  · obtain rfl : own = found := by
      simpa using heq
    refine ⟨hread, hconcrete, hsum.trans (by decide +kernel), lines, hlines, ?_, ?_, ?_⟩
    · rw [← hkeys]
      decide +kernel
    · rw [hown.length_eq]
      rfl
    · rw [← hcount]
      decide

end Bundle

end BundleCheck
