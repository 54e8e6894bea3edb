import BundleCheck.Proofs.Check.Scope
import BundleCheck.Proofs.Pattern.Search

/-!
# What is found on a line

A finding that a check makes on a line carries the number and the key of that line, and its column lies in the
value that was inspected or right behind it. Each check computes its columns in a way of its own, with a stack,
in a list of specifiers or by a search, so each has a lemma about them. `Inspects` is what they all come to.
-/

namespace BundleCheck

/-! ### Places in a value -/

/-- The finding is on the line with the given number and key, and its column belongs to the value. -/
structure Finding.PointsInto (x : Finding) (number : Nat) (key : Option String) (value : String) : Prop where
  line : x.line? = some number
  key : x.key = key
  column : ∀ p, x.position = some p → ∀ column, p.column = some column → 1 ≤ column ∧ column ≤ value.length + 1

namespace Finding

variable {number : Nat} {key : Option String} {value message : String} {severity : Severity}

theorem pointsInto_mk {column : Option Nat} (h : ∀ n, column = some n → 1 ≤ n ∧ n ≤ value.length + 1) :
    (⟨severity, some ⟨number, column⟩, key, message⟩ : Finding).PointsInto number key value := by
  refine ⟨rfl, rfl, ?_⟩
  rintro _ ⟨⟩ n hn
  exact h n hn

theorem pointsInto_onLine :
    (⟨severity, some (.onLine number), key, message⟩ : Finding).PointsInto number key value :=
  pointsInto_mk fun _ hn => by cases hn

theorem pointsInto_atColumn {column : Nat} (h : 1 ≤ column ∧ column ≤ value.length + 1) :
    (⟨severity, some (.atColumn number column), key, message⟩ : Finding).PointsInto number key value :=
  pointsInto_mk fun _ hn => Option.some.inj hn ▸ h

theorem graded_eq (position : Option Position) (key : Option String) (message : String) :
    graded position key message = ⟨if key.isSome then .error else .warning, position, key, message⟩ := by
  rw [graded]
  split <;> rfl

end Finding

/-! ### One line at a time -/

/-- What is found on a line points into what is inspected of it, and there is not more of it than the limit. -/
structure Inspects (comments : Bool) (limit : Nat) (f : Nat → Line → List Finding) : Prop where
  pointsInto : ∀ number line, ∀ x ∈ f number line,
    ∃ value, line.inspected? comments = some value ∧ x.PointsInto number line.key? value
  length_le : ∀ number line, (f number line).length ≤ limit

namespace Inspects

variable {comments : Bool} {limit : Nat} {f : Nat → Line → List Finding}

theorem pointing (h : Inspects comments limit f) : Content.Pointing f := by
  intro number line x hx
  obtain ⟨value, -, hplace⟩ := h.pointsInto number line x hx
  exact hplace.line

/-- Nothing is found but on lines that are inspected. -/
theorem exists_inspected (h : Inspects comments limit f) {d : Content} {x : Finding} (hx : x ∈ d.inspect f) :
    ∃ number line value, d.line? number = some line ∧ line.inspected? comments = some value ∧
      x.line? = some number := by
  obtain ⟨number, line, hline, hfound⟩ := Content.mem_inspect.1 hx
  obtain ⟨value, hvalue, hplace⟩ := h.pointsInto number line x hfound
  exact ⟨number, line, value, hline, hvalue, hplace.line⟩

theorem of_inspected (g : Nat → Option String → String → List Finding)
    (hf : ∀ number line, f number line = (line.inspected? comments).elim [] (g number line.key?))
    (hplace : ∀ number key value, ∀ x ∈ g number key value, x.PointsInto number key value)
    (hlength : ∀ number key value, (g number key value).length ≤ limit) : Inspects comments limit f := by
  refine ⟨?_, ?_⟩
  · intro number line x hx
    rw [hf] at hx
    cases hvalue : line.inspected? comments with
    | none =>
      rw [hvalue] at hx
      cases hx
    | some value =>
      rw [hvalue] at hx
      exact ⟨value, rfl, hplace number line.key? value x hx⟩
  · intro number line
    rw [hf]
    cases line.inspected? comments with
    | none => exact Nat.zero_le limit
    | some value => exact hlength number line.key? value

/-- One search in what is inspected makes one finding at most. -/
theorem of_search {α : Type} (search : String → Option α) (report : Nat → Option String → α → Finding)
    (hf : ∀ number line, f number line =
      (line.inspected? comments).elim [] fun value => (search value).toList.map (report number line.key?))
    (hplace : ∀ number key value a, search value = some a → (report number key a).PointsInto number key value) :
    Inspects comments 1 f := by
  refine .of_inspected (fun number key value => (search value).toList.map (report number key)) hf ?_ ?_
  · intro number key value x hx
    simp only [List.mem_map, Option.mem_toList] at hx
    obtain ⟨a, ha, rfl⟩ := hx
    exact hplace number key value a ha
  · intro number key value
    rw [List.length_map]
    exact Option.length_toList_le

/-- A check of entries never reads comments. -/
theorem of_entries (hplace : ∀ number e, ∀ x ∈ f number (.entry e), x.PointsInto number (some e.key) e.value)
    (hlength : ∀ number e, (f number (.entry e)).length ≤ limit)
    (hcomment : ∀ number c, f number (.comment c) = []) (hblank : ∀ number, f number .blank = []) :
    Inspects false limit f := by
  refine ⟨?_, ?_⟩
  · intro number line x hx
    cases line with
    | entry e => exact ⟨e.value, rfl, hplace number e x hx⟩
    | comment c => simp [hcomment] at hx
    | blank => simp [hblank] at hx
  · intro number line
    cases line with
    | entry e => exact hlength number e
    | comment c => simp [hcomment]
    | blank => simp [hblank]

/-- Entries that fail a test are found with their line alone. -/
theorem of_test (test : Entry → Bool) (severity : Severity) (message : String)
    (hf : ∀ number line, f number line = match line with
      | .entry e => if test e then [] else [⟨severity, some (.onLine number), some e.key, message⟩]
      | _ => []) : Inspects false 1 f := by
  refine .of_entries ?_ ?_ (fun _ _ => hf _ _) fun _ => hf _ _
  · intro number e x hx
    rw [hf] at hx
    simp only at hx
    split at hx
    · cases hx
    · rw [List.mem_singleton] at hx
      exact hx ▸ Finding.pointsInto_onLine
  · intro number e
    rw [hf]
    simp only
    split <;> simp

end Inspects

/-! ### Stacks of open characters -/

namespace Nesting

variable {opening closing : List Char} {column : Nat} {stack : List Pending} {fault : Fault}

/-- A character opens, or it leaves what is open or closes some of it, or it is at fault. -/
theorem step_cases (opening closing : List Char) (column : Nat) (c : Char) (stack : List Pending) :
    (∃ pair, step opening closing column c stack = .ok (⟨pair, column⟩ :: stack)) ∨
      (∃ rest, rest <:+ stack ∧ step opening closing column c stack = .ok rest) ∨
      ∃ fault, step opening closing column c stack = .error fault ∧ fault.column = column := by
  cases stack with
  | nil =>
    rw [step]
    split
    · exact .inl ⟨_, rfl⟩
    · split
      · exact .inr (.inr ⟨_, rfl, rfl⟩)
      · exact .inr (.inl ⟨[], List.suffix_refl [], rfl⟩)
  | cons top rest =>
    rw [step]
    split
    · exact .inr (.inl ⟨rest, List.suffix_cons top rest, rfl⟩)
    · split
      · exact .inl ⟨_, rfl⟩
      · split
        · exact .inr (.inl ⟨top :: rest, List.suffix_refl _, rfl⟩)
        · split
          · exact .inr (.inl ⟨rest, List.suffix_cons top rest, rfl⟩)
          · exact .inr (.inr ⟨_, rfl, rfl⟩)

/-- A fault is at a character that was read, now or before. -/
theorem column_of_faultFrom? {ignoreQuoted : Bool} {before : Option Char} {value : List Char}
    (h : faultFrom? opening closing ignoreQuoted before column stack value = some fault)
    (hstack : ∀ p ∈ stack, 1 ≤ p.column ∧ p.column < column) (hcolumn : 1 ≤ column) :
    1 ≤ fault.column ∧ fault.column < column + value.length := by
  induction value generalizing before column stack with
  | nil =>
    rw [faultFrom?] at h
    obtain ⟨first, hfirst, rfl⟩ := Option.map_eq_some_iff.1 h
    exact hstack first (List.mem_of_getLast? hfirst)
  | cons c rest ih =>
    have hpos : 1 ≤ column + 1 := by omega
    have hlater : ∀ p ∈ stack, 1 ≤ p.column ∧ p.column < column + 1 := by
      intro p hp
      have hread := hstack p hp
      omega
    rw [List.length_cons]
    rw [faultFrom?] at h
    split at h
    · have hrest := ih h hlater hpos
      omega
    · rcases step_cases opening closing column c stack with
        ⟨pair, hstep⟩ | ⟨left, hleft, hstep⟩ | ⟨found, hstep, hfound⟩
      · rw [hstep] at h
        have hrest := ih h (List.forall_mem_cons.2 ⟨⟨hcolumn, Nat.lt_succ_self column⟩, hlater⟩) hpos
        omega
      · rw [hstep] at h
        have hrest := ih h (fun p hp => hlater p (hleft.subset hp)) hpos
        omega
      · rw [hstep] at h
        rw [← Option.some.inj h]
        omega

theorem column_of_fault? {ignoreQuoted : Bool} {value : String}
    (h : fault? opening closing ignoreQuoted value.toList = some fault) :
    1 ≤ fault.column ∧ fault.column ≤ value.length + 1 := by
  have hcolumn := column_of_faultFrom? h (by simp) (Nat.le_refl 1)
  rw [String.length_toList] at hcolumn
  omega

theorem inspects (o : PairOptions) : Inspects o.comments 1 (inspectLine o) := by
  refine .of_search (fun value => fault? o.opening o.closing o.ignoreQuoted value.toList)
    (fun number key fault => .graded (some (.atColumn number fault.column)) key fault.message) ?_ ?_
  · intro number line
    rw [inspectLine]
    cases line.inspected? o.comments <;> rfl
  · intro number key value fault hfault
    rw [Finding.graded_eq]
    exact Finding.pointsInto_atColumn (column_of_fault? hfault)

end Nesting

namespace QuotationMarks

variable {marks : List Char} {column : Nat} {stack : List OpenMark} {m : OpenMark}

theorem mem_of_mem_step {c : Char} (h : m ∈ step column c stack) : m ∈ stack ∨ m = ⟨c, column⟩ := by
  unfold step at h
  split at h
  · rename_i top rest
    split at h
    · exact .inl (List.mem_cons_of_mem top h)
    · rcases List.mem_cons.1 h with rfl | h
      · exact .inr rfl
      · exact .inl h
  · exact .inr (List.mem_singleton.1 h)

/-- A mark that is open in the end was read, now or before. -/
theorem column_of_mem_openFrom {value : List Char} (h : m ∈ openFrom marks column stack value)
    (hstack : ∀ m ∈ stack, 1 ≤ m.column ∧ m.column < column) (hcolumn : 1 ≤ column) :
    1 ≤ m.column ∧ m.column < column + value.length := by
  induction value generalizing column stack with
  | nil => exact hstack m h
  | cons c rest ih =>
    rw [openFrom] at h
    have hread : ∀ p ∈ if marks.contains c then step column c stack else stack,
        1 ≤ p.column ∧ p.column < column + 1 := by
      intro p hp
      have hopen : p ∈ stack ∨ p = ⟨c, column⟩ := by
        split at hp
        · exact mem_of_mem_step hp
        · exact .inl hp
      rcases hopen with hbefore | rfl
      · have hcolumns := hstack p hbefore
        omega
      · exact ⟨hcolumn, Nat.lt_succ_self column⟩
    have hrest := ih h hread (by omega)
    rw [List.length_cons]
    omega

theorem inspects (o : QuotationOptions) : Inspects o.comments 1 (inspectLine o) := by
  refine .of_search (fun value => unpaired? o.marks value.toList)
    (fun number key m => .graded (some (.atColumn number m.column)) key (message m.mark)) ?_ ?_
  · intro number line
    rw [inspectLine]
    cases line.inspected? o.comments <;> rfl
  · intro number key value m hm
    have hcolumn := column_of_mem_openFrom (List.mem_of_getLast? hm) (by simp) (Nat.le_refl 1)
    rw [String.length_toList] at hcolumn
    rw [Finding.graded_eq]
    exact Finding.pointsInto_atColumn (by omega)

end QuotationMarks

/-! ### Comparisons -/

namespace FormattingValues

theorem column_of_mem_specifiersFrom {column : Nat} {value : List Char} {found : Specifier}
    (h : found ∈ specifiersFrom column value) : column ≤ found.column ∧ found.column < column + value.length := by
  induction value generalizing column with
  | nil => cases h
  | cons c rest ih =>
    rw [specifiersFrom] at h
    rw [List.length_cons]
    split at h
    · rcases List.mem_cons.1 h with rfl | h
      · simp
      · have hrest := ih h
        omega
    · have hrest := ih h
      omega

theorem column_of_remark? {value reference : String} {r : Agreement.Remark} (h : remark? value reference = some r)
    (n : Nat) (hn : r.column = some n) : 1 ≤ n ∧ n ≤ value.length + 1 := by
  simp only [remark?] at h
  split at h
  · rw [← Option.some.inj h] at hn
    cases hn
  · obtain ⟨⟨expected, found⟩, hfound, rfl⟩ := Option.map_eq_some_iff.1 h
    have hmem : found ∈ specifiers value := (List.of_mem_zip (List.mem_of_find?_eq_some hfound)).2
    have hcolumn := column_of_mem_specifiersFrom hmem
    rw [String.length_toList] at hcolumn
    have hsame : found.column = n := Option.some.inj hn
    omega

end FormattingValues

/-- The other comparisons point at no column. -/
theorem EmptyTranslations.column_of_remark? {value reference : String} {r : Agreement.Remark}
    (h : remark? value reference = some r) : r.column = none := by
  unfold remark? at h
  split at h
  · exact Option.some.inj h ▸ rfl
  · cases h

theorem Punctuation.column_of_remark? {o : PunctuationOptions} {value reference : String} {r : Agreement.Remark}
    (h : remark? o value reference = some r) : r.column = none := by
  unfold remark? at h
  split at h
  · cases h
  · split at h
    · cases h
    · exact Option.some.inj h ▸ rfl

theorem SameCase.column_of_remark? {o : CaseOptions} {value reference : String} {r : Agreement.Remark}
    (h : remark? o value reference = some r) : r.column = none := by
  unfold remark? at h
  split at h
  · cases h
  · split at h
    · cases h
    · exact Option.some.inj h ▸ rfl
    · exact Option.some.inj h ▸ rfl
    · simp only at h
      split at h
      · cases h
      · exact Option.some.inj h ▸ rfl

theorem Agreement.inspects {remark? : String → String → Option Remark}
    (hremark : ∀ value reference r, remark? value reference = some r →
      ∀ n, r.column = some n → 1 ≤ n ∧ n ≤ value.length + 1)
    (counterpart : String → Option String) : Inspects false 1 (inspectLine remark? counterpart) := by
  refine .of_entries ?_ ?_ (fun _ _ => rfl) fun _ => rfl
  · intro number e x hx
    rw [inspectLine] at hx
    split at hx
    · cases hx
    · simp only [List.mem_map, Option.mem_toList] at hx
      obtain ⟨r, hr, rfl⟩ := hx
      exact Finding.pointsInto_mk (hremark _ _ r hr)
  · intro number e
    rw [inspectLine]
    split
    · exact Nat.zero_le 1
    · rw [List.length_map]
      exact Option.length_toList_le

/-- A comparison without columns has nothing to show about them. -/
theorem Agreement.inspects_of_column_eq_none {remark? : String → String → Option Remark}
    (hremark : ∀ {value reference r}, remark? value reference = some r → r.column = none)
    (counterpart : String → Option String) : Inspects false 1 (inspectLine remark? counterpart) := by
  refine inspects ?_ counterpart
  intro value reference r hr n hn
  rw [hremark hr] at hn
  cases hn

theorem DanglingKeys.inspects (isKnown : String → Bool) : Inspects false 1 (inspectLine isKnown) := by
  refine .of_test (fun e => isKnown e.key) .error "Key not present in reference file." fun number line => ?_
  cases line <;> rfl

/-! ### Patterns -/

theorem KeyFormat.inspects (written : String) (pattern : Pattern.Expression) :
    Inspects false 1 (inspectLine written pattern) := by
  refine .of_test (fun e => pattern.occursIn e.key.toList) .error (message written) fun number line => ?_
  cases line <;> rfl

namespace Substitutions

theorem finding_pointsInto {rules : List Rule} {value : String} {rule : Rule} {m : Pattern.Match}
    (h : firstMatch? rules value.toList = some (rule, m)) (number : Nat) (key : Option String) :
    (finding rule m number key).PointsInto number key value := by
  obtain ⟨tried, -, hfound⟩ := List.exists_of_findSome?_eq_some h
  obtain ⟨m', hm, hpair⟩ := Option.map_eq_some_iff.1 hfound
  have hstart := Pattern.Expression.start_of_find? hm
  rw [String.length_toList, (Prod.mk.inj hpair).2] at hstart
  unfold finding
  cases rule.flag <;> exact Finding.pointsInto_atColumn (by omega)

theorem inspects (rules : List Rule) (comments : Bool) : Inspects comments 1 (inspectLine rules comments) := by
  refine .of_search (fun value => firstMatch? rules value.toList)
    (fun number key found => finding found.1 found.2 number key) ?_ ?_
  · intro number line
    rw [inspectLine]
    cases line.inspected? comments <;> rfl
  · rintro number key value ⟨rule, m⟩ hmatch
    exact finding_pointsInto hmatch number key

end Substitutions

/-! ### White space -/

theorem TrailingWhiteSpace.inspects (o : CommentOptions) : Inspects o.comments 1 (inspectLine o) := by
  refine .of_search (fun value => if count value.toList = 0 then none else some (count value.toList))
    (fun number key n => .graded (some (.onLine number)) key (message n)) ?_ ?_
  · intro number line
    rw [inspectLine]
    cases line.inspected? o.comments with
    | none => rfl
    | some value =>
      simp only [Option.elim_some]
      split <;> rfl
  · intro number key value n _
    rw [Finding.graded_eq]
    exact Finding.pointsInto_onLine

namespace WhiteSpaceBeforeBreak

theorem column_of_first? {b : Break} {white : White} {column : Nat} {value : List Char}
    (h : first? b value = some (white, column)) : 1 ≤ column ∧ column ≤ value.length + 1 := by
  obtain ⟨⟨white, offset⟩, -, hpair⟩ := Option.map_eq_some_iff.1 h
  rw [← (Prod.mk.inj hpair).2]
  exact ⟨Nat.le_add_left 1 _, Nat.succ_le_succ (Text.length_upTo_le offset value)⟩

theorem inspects (o : CommentOptions) : Inspects o.comments 2 (inspectLine o) := by
  refine .of_inspected (fun number key value =>
    if value.length < shortest then []
    else
      [Break.lineFeed, Break.carriageReturn].filterMap fun b =>
        (first? b value.toList).map fun found =>
          .warning (some (.atColumn number found.2)) key (message found.1 b)) ?_ ?_ ?_
  · intro number line
    rw [inspectLine]
    cases line.inspected? o.comments <;> rfl
  · intro number key value x hx
    split at hx
    · cases hx
    · obtain ⟨b, -, hx⟩ := List.mem_filterMap.1 hx
      obtain ⟨⟨white, column⟩, hfirst, rfl⟩ := Option.map_eq_some_iff.1 hx
      have hcolumn := column_of_first? hfirst
      rw [String.length_toList] at hcolumn
      exact Finding.pointsInto_atColumn hcolumn
  · intro number key value
    split
    · exact Nat.zero_le 2
    · exact List.length_filterMap_le _ _

end WhiteSpaceBeforeBreak

end BundleCheck
