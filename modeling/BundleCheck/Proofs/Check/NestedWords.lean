import BundleCheck.Bundle.Basic
import BundleCheck.Proofs.Check.Inspection
import Mathlib.Data.List.Induction

/-!
# Words in which pairs nest

Of a value the listed characters are read, without those between quotes where these are left out. They are its word,
and nothing is found in the value if pairs nest in the word. Which words these are can be said without a stack. A
stack tells how a word that has been read can go on, and so, where no character is listed on both sides, the first
fault is where the word can go on no more, or the first opening character without a partner if it always could.
-/

namespace BundleCheck.Nesting

/-- Nothing, or a pair around such a word with such a word behind it. The partner of an opening character is the
closing one at its first place. -/
inductive Nested (opening closing : List Char) : List Char → Prop
  | nil : Nested opening closing []
  | pair {pair : Nat} {c d : Char} {inner rest : List Char} (hopening : opening.idxOf? c = some pair)
      (hclosing : closing[pair]? = some d) (hinner : Nested opening closing inner)
      (hrest : Nested opening closing rest) : Nested opening closing (c :: inner ++ d :: rest)

/-- Whether the character at the given place, counted from zero, is between two quotes of one kind. -/
def betweenQuotes (value : List Char) : Nat → Bool
  | 0 => false
  | before + 1 => ['"', '\''].any fun quote => value[before]? = some quote && value[before + 2]? = some quote

/-- The character at a place with its column, if it is read. -/
def letter? (o : PairOptions) (value : List Char) (p : Char × Nat) : Option (Char × Nat) :=
  if (o.opening.contains p.1 || o.closing.contains p.1) && !(o.ignoreQuoted && betweenQuotes value p.2) then
    some (p.1, p.2 + 1)
  else none

/-- What is read of a value, with the columns. -/
def letters (o : PairOptions) (value : List Char) : List (Char × Nat) :=
  value.zipIdx.filterMap (letter? o value)

/-- A nested word can begin so. -/
def IsExtendable (opening closing front : List Char) : Prop := ∃ back, Nested opening closing (front ++ back)

/-- The opening character is closed by a character behind it. -/
def HasPartner (opening closing : List Char) (c : Char) (behind : List Char) : Prop :=
  ∃ pair d inner rest, opening.idxOf? c = some pair ∧ closing[pair]? = some d ∧ behind = inner ++ d :: rest ∧
    Nested opening closing inner

/-- The place of the first fault in a word: the first letter with which it can go on no more, or if it always can, the
first opening character without a partner. -/
inductive IsFault (opening closing front : List Char) (c : Char) (back : List Char) : Prop
  | deadEnd (hfront : IsExtendable opening closing front) (hdead : ¬ IsExtendable opening closing (front ++ [c]))
  | unpaired (halive : ∀ start, start <+: front ++ c :: back → IsExtendable opening closing start)
      (hopening : c ∈ opening) (hunpaired : ¬ HasPartner opening closing c back)
      (hpaired : ∀ before d behind, front = before ++ d :: behind → d ∈ opening →
        HasPartner opening closing d (behind ++ c :: back))

variable {opening closing : List Char}

/-! ### Nested words -/

theorem Nested.append {x y : List Char} (hx : Nested opening closing x) (hy : Nested opening closing y) :
    Nested opening closing (x ++ y) := by
  induction hx with
  | nil => exact hy
  | @pair pair c d inner rest hopening hclosing hinner hrest ihinner ihrest =>
    rw [List.append_assoc, List.cons_append]
    exact .pair hopening hclosing hinner ihrest

theorem HasPartner.append {c : Char} {behind : List Char} (h : HasPartner opening closing c behind)
    (more : List Char) : HasPartner opening closing c (behind ++ more) := by
  obtain ⟨pair, d, inner, rest, hopening, hclosing, rfl, hinner⟩ := h
  exact ⟨pair, d, inner, rest ++ more, hopening, hclosing, by simp, hinner⟩

theorem IsExtendable.of_prefix {start word : List Char} (h : IsExtendable opening closing word)
    (hstart : start <+: word) : IsExtendable opening closing start := by
  obtain ⟨rest, rfl⟩ := hstart
  obtain ⟨more, hmore⟩ := h
  exact ⟨rest ++ more, by rwa [← List.append_assoc]⟩

/-- In a nested word every opening character has a partner. -/
theorem Nested.hasPartner (hapart : ∀ c ∈ opening, c ∉ closing) {word front back : List Char} {c : Char}
    (h : Nested opening closing word) (hword : word = front ++ c :: back) (hc : c ∈ opening) :
    HasPartner opening closing c back := by
  induction h generalizing front back with
  | nil => simp at hword
  | @pair pair first d inner rest hopening hclosing hinner hrest ihinner ihrest =>
    cases front with
    | nil =>
      obtain ⟨rfl, rfl⟩ := List.cons.inj hword
      exact ⟨pair, d, inner, rest, hopening, hclosing, rfl, hinner⟩
    | cons first' front =>
      have htail : inner ++ d :: rest = front ++ c :: back := (List.cons.inj hword).2
      rcases List.append_eq_append_iff.1 htail with ⟨between, rfl, hrest'⟩ | ⟨between, rfl, hback⟩
      · cases between with
        | nil =>
          obtain ⟨rfl, -⟩ := List.cons.inj hrest'
          exact absurd (List.mem_of_getElem? hclosing) (hapart d hc)
        | cons d' between => exact ihrest (List.cons.inj hrest').2
      · cases between with
        | nil =>
          obtain ⟨rfl, -⟩ := List.cons.inj hback
          exact absurd (List.mem_of_getElem? hclosing) (hapart c hc)
        | cons c' between =>
          obtain ⟨rfl, rfl⟩ := List.cons.inj hback
          exact (ihinner rfl).append (d :: rest)

/-! ### What one letter does -/

theorem getElem?_of_idxOf? {list : List Char} {c : Char} {place : Nat} (h : list.idxOf? c = some place) :
    list[place]? = some c := by
  obtain ⟨hlt, hc, -⟩ := List.idxOf?_eq_some_iff.1 h
  rw [List.getElem?_eq_getElem hlt, hc]

variable {column : Nat} {c : Char} {top : Pending} {stack after : List Pending} {fault : Fault}

/-- A closing character that comes to be compared with the innermost opening one is never its partner, since it would
have closed the pair before. -/
theorem step_of_closing_compared (hclosing : closing[top.pair]? ≠ some c) (hopening : opening.idxOf? c = none)
    {pair : Nat} (hpair : closing.idxOf? c = some pair) : pair ≠ top.pair ∧
      step opening closing column c (top :: stack) = .error (.wrongClosing column (closing.getD top.pair c) c) := by
  have hne : pair ≠ top.pair := by
    rintro rfl
    exact hclosing (getElem?_of_idxOf? hpair)
  refine ⟨hne, ?_⟩
  rw [step, if_neg hclosing, hopening, hpair]
  exact if_neg hne

theorem step_of_closing (h : closing[top.pair]? = some c) :
    step opening closing column c (top :: stack) = .ok stack := by
  rw [step, if_pos h]

theorem step_of_opening {pair : Nat} (hopening : opening.idxOf? c = some pair) (hclosing : c ∉ closing) :
    step opening closing column c stack = .ok (⟨pair, column⟩ :: stack) := by
  cases stack with
  | nil => rw [step, hopening]
  | cons top rest =>
    have hother : closing[top.pair]? ≠ some c := fun h => hclosing (List.mem_of_getElem? h)
    rw [step, if_neg hother, hopening]

theorem step_of_unlisted (hopening : c ∉ opening) (hclosing : c ∉ closing) :
    step opening closing column c stack = .ok stack := by
  have hnone := List.idxOf?_eq_none_iff.2 hopening
  cases stack with
  | nil => simp [step, hnone, hclosing]
  | cons top rest =>
    have hother : closing[top.pair]? ≠ some c := fun h => hclosing (List.mem_of_getElem? h)
    rw [step, if_neg hother, hnone, List.idxOf?_eq_none_iff.2 hclosing]

/-- A letter closes the innermost pair, opens one or is none. -/
theorem step_eq_ok (h : step opening closing column c stack = .ok after) :
    (∃ top, stack = top :: after ∧ closing[top.pair]? = some c) ∨
      (∃ pair, opening.idxOf? c = some pair ∧ after = ⟨pair, column⟩ :: stack) ∨
      (c ∉ opening ∧ c ∉ closing) := by
  by_cases hopening : c ∈ opening
  · obtain ⟨pair, hpair⟩ := Option.isSome_iff_exists.1 (List.isSome_idxOf?.2 hopening)
    cases stack with
    | nil =>
      rw [step, hpair] at h
      exact .inr (.inl ⟨pair, hpair, (Except.ok.inj h).symm⟩)
    | cons top rest =>
      by_cases hclosing : closing[top.pair]? = some c
      · rw [step_of_closing hclosing] at h
        exact .inl ⟨top, by rw [Except.ok.inj h], hclosing⟩
      · rw [step, if_neg hclosing, hpair] at h
        exact .inr (.inl ⟨pair, hpair, (Except.ok.inj h).symm⟩)
  · have hnone := List.idxOf?_eq_none_iff.2 hopening
    by_cases hmem : c ∈ closing
    · obtain ⟨pair, hpair⟩ := Option.isSome_iff_exists.1 (List.isSome_idxOf?.2 hmem)
      cases stack with
      | nil => simp [step, hnone, hmem] at h
      | cons top rest =>
        by_cases hclosing : closing[top.pair]? = some c
        · rw [step_of_closing hclosing] at h
          exact .inl ⟨top, by rw [Except.ok.inj h], hclosing⟩
        · rw [(step_of_closing_compared hclosing hnone hpair).2] at h
          cases h
    · exact .inr (.inr ⟨hopening, hmem⟩)

theorem column_of_step_eq_error (h : step opening closing column c stack = .error fault) : fault.column = column := by
  rcases step_cases opening closing column c stack with ⟨pair, hstep⟩ | ⟨rest, -, hstep⟩ | ⟨found, hstep, hfound⟩
  · cases hstep.symm.trans h
  · cases hstep.symm.trans h
  · rw [← Except.error.inj (hstep.symm.trans h), hfound]

/-! ### Reading a word -/

/-- What is open after a word, or its first fault. -/
def read (opening closing : List Char) (stack : List Pending) (word : List (Char × Nat)) :
    Except Fault (List Pending) :=
  word.foldlM (fun stack p => step opening closing p.2 p.1 stack) stack

variable {word front back : List (Char × Nat)}

theorem read_cons_of_ok (h : step opening closing column c stack = .ok after) :
    read opening closing stack ((c, column) :: back) = read opening closing after back := by
  rw [read, List.foldlM_cons, h]
  rfl

theorem read_cons_of_error (h : step opening closing column c stack = .error fault) :
    read opening closing stack ((c, column) :: back) = .error fault := by
  rw [read, List.foldlM_cons, h]
  rfl

theorem read_append_of_ok (h : read opening closing stack front = .ok after) :
    read opening closing stack (front ++ back) = read opening closing after back := by
  rw [read, List.foldlM_append, ← read, h]
  rfl

/-- A fault is at a letter, and the letters before it are read without one. -/
theorem exists_of_read_eq_error (h : read opening closing stack word = .error fault) :
    ∃ front c column back waiting, word = front ++ (c, column) :: back ∧
      read opening closing stack front = .ok waiting ∧ step opening closing column c waiting = .error fault := by
  induction word generalizing stack with
  | nil => cases h
  | cons letter rest ih =>
    obtain ⟨c, column⟩ := letter
    cases hstep : step opening closing column c stack with
    | error found =>
      rw [read_cons_of_error hstep] at h
      exact ⟨[], c, column, rest, stack, rfl, rfl, by rw [hstep, Except.error.inj h]⟩
    | ok after =>
      rw [read_cons_of_ok hstep] at h
      obtain ⟨front, d, place, back, waiting, rfl, hfront, hd⟩ := ih h
      exact ⟨(c, column) :: front, d, place, back, waiting, rfl, by rw [read_cons_of_ok hstep, hfront], hd⟩

/-- A nested word leaves open what was open. -/
theorem read_of_nested (hapart : ∀ c ∈ opening, c ∉ closing) {chars : List Char} (h : Nested opening closing chars)
    (hword : word.map Prod.fst = chars) : read opening closing stack word = .ok stack := by
  induction h generalizing word stack with
  | nil =>
    rw [List.map_eq_nil_iff.1 hword]
    rfl
  | @pair pair c d inner rest hopening hclosing hinner hrest ihinner ihrest =>
    obtain ⟨front, behind, rfl, hfront, hbehind⟩ := List.map_eq_append_iff.1 hword
    obtain ⟨⟨_, column⟩, within, rfl, rfl, hwithin⟩ := List.map_eq_cons_iff.1 hfront
    obtain ⟨⟨_, place⟩, back, rfl, rfl, hback⟩ := List.map_eq_cons_iff.1 hbehind
    have hnot := hapart _ (List.mem_of_getElem? (getElem?_of_idxOf? hopening))
    rw [List.cons_append, read_cons_of_ok (step_of_opening hopening hnot), read_append_of_ok (ihinner hwithin),
      read_cons_of_ok (step_of_closing hclosing), ihrest hback]

/-! ### What a word leaves open -/

/-- The word is nested up to the opening characters that wait, of which the innermost is first. -/
inductive Leaves (opening closing : List Char) : List Pending → List (Char × Nat) → Prop
  | nested {word : List (Char × Nat)} (h : Nested opening closing (word.map Prod.fst)) : Leaves opening closing [] word
  | opened {stack : List Pending} {front inner : List (Char × Nat)} {c : Char} {top : Pending}
      (hfront : Leaves opening closing stack front) (hc : opening.idxOf? c = some top.pair)
      (hinner : Nested opening closing (inner.map Prod.fst)) :
      Leaves opening closing (top :: stack) (front ++ (c, top.column) :: inner)

namespace Leaves

theorem append (h : Leaves opening closing stack front) (hback : Nested opening closing (back.map Prod.fst)) :
    Leaves opening closing stack (front ++ back) := by
  cases h with
  | nested h =>
    refine .nested ?_
    rw [List.map_append]
    exact h.append hback
  | @opened stack before inner c top hbefore hc hinner =>
    rw [List.append_assoc, List.cons_append]
    refine .opened hbefore hc ?_
    rw [List.map_append]
    exact hinner.append hback

/-- The partner of the innermost opening character closes its pair. -/
theorem close (h : Leaves opening closing (top :: stack) front) (hclosing : closing[top.pair]? = some c)
    (column : Nat) : Leaves opening closing stack (front ++ [(c, column)]) := by
  cases h with
  | @opened _ before inner d _ hbefore hd hinner =>
    rw [List.append_assoc, List.cons_append]
    refine hbefore.append ?_
    rw [List.map_cons, List.map_append]
    exact .pair hd hclosing hinner .nil

theorem of_read (hlisted : ∀ p ∈ word, p.1 ∈ opening ∨ p.1 ∈ closing)
    (h : read opening closing [] word = .ok stack) : Leaves opening closing stack word := by
  induction word using List.reverseRecOn generalizing stack with
  | nil => exact Except.ok.inj h ▸ .nested .nil
  | append_singleton front letter ih =>
    obtain ⟨c, column⟩ := letter
    rw [List.forall_mem_append, List.forall_mem_singleton] at hlisted
    cases hfront : read opening closing [] front with
    | error fault =>
      rw [read, List.foldlM_append, ← read, hfront] at h
      cases h
    | ok before =>
      have hleaves := ih hlisted.1 hfront
      rw [read_append_of_ok hfront, read, List.foldlM_cons] at h
      cases hstep : step opening closing column c before with
      | error fault =>
        rw [hstep] at h
        cases h
      | ok after =>
        rw [hstep] at h
        obtain rfl : after = stack := Except.ok.inj h
        rcases step_eq_ok hstep with ⟨top, rfl, hclosing⟩ | ⟨pair, hopening, rfl⟩ | ⟨hopening, hclosing⟩
        · exact hleaves.close hclosing column
        · exact .opened hleaves hopening .nil
        · exact absurd hlisted.2 (not_or.2 ⟨hopening, hclosing⟩)

/-- Whatever is open can be closed. -/
theorem isExtendable (hlength : opening.length = closing.length) (h : Leaves opening closing stack word) :
    IsExtendable opening closing (word.map Prod.fst) := by
  induction stack generalizing word with
  | nil =>
    cases h with
    | nested h => exact ⟨[], by rwa [List.append_nil]⟩
  | cons top stack ih =>
    obtain ⟨d, hd⟩ : ∃ d, closing[top.pair]? = some d := by
      cases h with
      | opened hfront hc hinner =>
        obtain ⟨hlt, -⟩ := List.idxOf?_eq_some_iff.1 hc
        exact ⟨_, List.getElem?_eq_getElem (hlength ▸ hlt)⟩
    obtain ⟨back, hback⟩ := ih (h.close hd 0)
    rw [List.map_append, List.append_assoc] at hback
    exact ⟨_, hback⟩

/-- The outermost opening character is at its column, behind a nested word. -/
theorem exists_outermost (h : Leaves opening closing stack word) {first : Pending} (hfirst : stack.getLast? = some first) :
    ∃ front c back, word = front ++ (c, first.column) :: back ∧ opening.idxOf? c = some first.pair ∧
      Nested opening closing (front.map Prod.fst) := by
  induction h with
  | nested h => cases hfirst
  | @opened stack front inner c top hfront hc hinner ih =>
    cases hfront with
    | nested hnested =>
      obtain rfl : top = first := Option.some.inj hfirst
      exact ⟨front, c, inner, rfl, hc, hnested⟩
    | @opened stack before inner' d next hbefore hd hinner' =>
      rw [List.getLast?_cons_cons] at hfirst
      obtain ⟨start, e, rest, hword, he, hstart⟩ := ih hfirst
      rw [hword, List.append_assoc]
      exact ⟨start, e, _, rfl, he, hstart⟩

theorem column_mem (h : Leaves opening closing stack word) {p : Pending} (hp : p ∈ stack) :
    p.column ∈ word.map Prod.snd := by
  induction h with
  | nested h => cases hp
  | opened hfront hc hinner ih =>
    rw [List.map_append, List.map_cons, List.mem_append, List.mem_cons]
    rcases List.mem_cons.1 hp with rfl | hp
    · exact .inr (.inl rfl)
    · exact .inl (ih hp)

end Leaves

/-! ### The word of a value -/

/-- What is said of a value whose word has been read so far. -/
def verdict (opening : List Char) : Except Fault (List Pending) → Option Fault
  | .error fault => some fault
  | .ok stack => stack.getLast?.map fun first => .noClosing first.column (opening.getD first.pair ' ')

theorem isQuoted_eq (front : List Char) (c : Char) (rest : List Char) :
    isQuoted front.getLast? rest.head? = betweenQuotes (front ++ c :: rest) front.length := by
  induction front using List.reverseRecOn with
  | nil => simp [isQuoted, betweenQuotes]
  | append_singleton front before ih =>
    have hbefore : (front ++ [before] ++ c :: rest)[front.length]? = some before := by simp
    have hafter : (front ++ [before] ++ c :: rest)[front.length + 2]? = rest.head? := by
      rw [List.getElem?_append_right (by simp)]
      simp [List.head?_eq_getElem?]
    rw [List.getLast?_concat, List.length_append, List.length_singleton, betweenQuotes, hbefore, hafter, isQuoted]
    rw [Bool.eq_iff_iff]
    simp only [isQuote, Option.any_some, Bool.and_eq_true, Bool.or_eq_true, beq_iff_eq, List.any_cons, List.any_nil,
      Bool.or_false, decide_eq_true_eq, Option.some.injEq]
    constructor
    · rintro ⟨hsame, hquote | hquote⟩
      · exact .inl ⟨hquote, by rw [← hsame, hquote]⟩
      · exact .inr ⟨hquote, by rw [← hsame, hquote]⟩
    · rintro (⟨rfl, hquote⟩ | ⟨rfl, hquote⟩)
      · exact ⟨hquote.symm, .inl rfl⟩
      · exact ⟨hquote.symm, .inr rfl⟩

/-- The rest of a value is read as its letters are. -/
theorem faultFrom?_eq (o : PairOptions) (front rest : List Char) (stack : List Pending) :
    faultFrom? o.opening o.closing o.ignoreQuoted front.getLast? (front.length + 1) stack rest =
      verdict o.opening (read o.opening o.closing stack
        ((rest.zipIdx front.length).filterMap (letter? o (front ++ rest)))) := by
  induction rest generalizing front stack with
  | nil => rfl
  | cons c rest ih =>
    have hvalue : front ++ c :: rest = (front ++ [c]) ++ rest := by simp
    have hlater := fun after => ih (front ++ [c]) after
    simp only [List.getLast?_concat, List.length_append, List.length_singleton, ← hvalue] at hlater
    rw [faultFrom?, isQuoted_eq front c rest, List.zipIdx_cons]
    by_cases hskip : (o.ignoreQuoted && betweenQuotes (front ++ c :: rest) front.length) = true
    · have hnone : letter? o (front ++ c :: rest) (c, front.length) = none := by simp [letter?, hskip]
      rw [if_pos hskip, List.filterMap_cons_none hnone, hlater]
    · rw [if_neg hskip]
      by_cases hlisted : (o.opening.contains c || o.closing.contains c) = true
      · have hsome : letter? o (front ++ c :: rest) (c, front.length) = some (c, front.length + 1) := by
          rw [Bool.not_eq_true] at hskip
          simp only [letter?, hlisted, hskip, Bool.not_false, Bool.and_self, if_true]
        rw [List.filterMap_cons_some hsome]
        cases hstep : step o.opening o.closing (front.length + 1) c stack with
        | error fault => rw [read_cons_of_error hstep, verdict]
        | ok after => rw [read_cons_of_ok hstep, ← hlater]
      · have hunlisted : c ∉ o.opening ∧ c ∉ o.closing := by simpa using hlisted
        have hnone : letter? o (front ++ c :: rest) (c, front.length) = none := by
          rw [Bool.not_eq_true] at hlisted
          simp only [letter?, hlisted, Bool.false_and, Bool.false_eq_true, if_false]
        rw [step_of_unlisted hunlisted.1 hunlisted.2, List.filterMap_cons_none hnone, ← hlater]

theorem fault?_eq (o : PairOptions) (value : List Char) :
    fault? o.opening o.closing o.ignoreQuoted value =
      verdict o.opening (read o.opening o.closing [] (letters o value)) :=
  faultFrom?_eq o [] value []

theorem listed_of_mem_letters {o : PairOptions} {value : List Char} :
    ∀ p ∈ letters o value, p.1 ∈ o.opening ∨ p.1 ∈ o.closing := by
  intro p hp
  obtain ⟨q, -, hq⟩ := List.mem_filterMap.1 hp
  rw [letter?] at hq
  split at hq
  · rename_i hread
    obtain rfl := Option.some.inj hq
    simp only [Bool.and_eq_true, Bool.or_eq_true, List.contains_iff_mem] at hread
    exact hread.1
  · cases hq

/-- Columns grow along the word. -/
theorem pairwise_letters (o : PairOptions) (value : List Char) :
    (letters o value).Pairwise fun p q => p.2 < q.2 := by
  have hplaces : (value.zipIdx).Pairwise fun p q => p.2 < q.2 := by
    rw [← List.pairwise_map, List.zipIdx_map_snd]
    exact List.pairwise_lt_range'
  have hcolumn : ∀ p, ∀ q ∈ letter? o value p, q.2 = p.2 + 1 := by
    intro p q hq
    rw [letter?] at hq
    split at hq
    · exact Option.some.inj hq ▸ rfl
    · cases hq
  rw [letters, List.pairwise_filterMap]
  refine hplaces.imp ?_
  intro p q hlt p' hp' q' hq'
  rw [hcolumn p p' hp', hcolumn q q' hq']
  exact Nat.succ_lt_succ hlt

/-! ### Faults -/

section Faults

variable {o : PairOptions} {value : List Char}

theorem nested_of_fault? (h : fault? o.opening o.closing o.ignoreQuoted value = none) :
    Nested o.opening o.closing ((letters o value).map Prod.fst) := by
  rw [fault?_eq] at h
  cases hread : read o.opening o.closing [] (letters o value) with
  | error fault =>
    rw [hread] at h
    cases h
  | ok stack =>
    have hleaves := Leaves.of_read listed_of_mem_letters hread
    rw [hread, verdict, Option.map_eq_none_iff, List.getLast?_eq_none_iff] at h
    subst h
    cases hleaves with
    | nested hnested => exact hnested

variable (hapart : ∀ c ∈ o.opening, c ∉ o.closing)

include hapart

theorem fault?_eq_none_iff : fault? o.opening o.closing o.ignoreQuoted value = none ↔
    Nested o.opening o.closing ((letters o value).map Prod.fst) := by
  refine ⟨nested_of_fault?, ?_⟩
  intro h
  rw [fault?_eq, read_of_nested hapart h rfl]
  rfl

/-- What cannot be read does not begin a nested word. -/
theorem not_isExtendable_of_read {word : List (Char × Nat)} {fault : Fault}
    (h : read o.opening o.closing [] word = .error fault) :
    ¬ IsExtendable o.opening o.closing (word.map Prod.fst) := by
  intro hextendable
  obtain ⟨back, hback⟩ := hextendable
  have hchars : (word ++ back.map (·, 0)).map Prod.fst = word.map Prod.fst ++ back := by
    simp [Function.comp_def]
  have hread : read o.opening o.closing [] (word ++ back.map (·, 0)) = .ok [] := read_of_nested hapart hback hchars
  rw [read, List.foldlM_append, ← read, h] at hread
  cases hread

/-- What waits in the end is not in a beginning that is nested. -/
theorem column_notMem_of_nested {stack : List Pending} {closed behind : List (Char × Nat)}
    (hread : read o.opening o.closing [] (letters o value) = .ok stack) (hword : letters o value = closed ++ behind)
    (hclosed : Nested o.opening o.closing (closed.map Prod.fst)) {first : Pending} (hfirst : first ∈ stack) :
    first.column ∉ closed.map Prod.snd := by
  intro hcolumn
  have hbehind : read o.opening o.closing [] behind = .ok stack := by
    rw [← hread, hword, read_append_of_ok (read_of_nested hapart hclosed rfl)]
  have hlisted : ∀ p ∈ behind, p.1 ∈ o.opening ∨ p.1 ∈ o.closing := fun p hp =>
    listed_of_mem_letters p (by rw [hword]; exact List.mem_append_right _ hp)
  have hlater := (Leaves.of_read hlisted hbehind).column_mem hfirst
  have hcolumns := pairwise_letters o value
  rw [hword, ← List.pairwise_map, List.map_append, List.pairwise_append] at hcolumns
  exact absurd (hcolumns.2.2 _ hcolumn _ hlater) (Nat.lt_irrefl _)

/-- What waits in the end behind a nested beginning has no partner, or it would be in a longer one. -/
theorem not_hasPartner_of_read {stack : List Pending} {front back : List (Char × Nat)} {c : Char} {first : Pending}
    (hread : read o.opening o.closing [] (letters o value) = .ok stack) (hfirst : first ∈ stack)
    (hword : letters o value = front ++ (c, first.column) :: back)
    (hfront : Nested o.opening o.closing (front.map Prod.fst)) :
    ¬ HasPartner o.opening o.closing c (back.map Prod.fst) := by
  intro hpartner
  obtain ⟨pair, d, inner, rest, hpair, hclosing, hback, hinner⟩ := hpartner
  obtain ⟨within, behind, rfl, hwithin, hbehind⟩ := List.map_eq_append_iff.1 hback
  obtain ⟨letter, behind, rfl, hletter, -⟩ := List.map_eq_cons_iff.1 hbehind
  have hclosed : Nested o.opening o.closing ((front ++ (c, first.column) :: within ++ [letter]).map Prod.fst) := by
    simp only [List.map_append, List.map_cons, List.map_nil, hwithin, hletter, List.append_assoc, List.cons_append]
    exact hfront.append (.pair hpair hclosing hinner .nil)
  have hletters : letters o value = (front ++ (c, first.column) :: within ++ [letter]) ++ behind := by
    rw [hword]
    simp
  exact column_notMem_of_nested hapart hread hletters hclosed hfirst (by simp)

theorem isFault_of_fault? (hlength : o.opening.length = o.closing.length) {fault : Fault}
    (h : fault? o.opening o.closing o.ignoreQuoted value = some fault) :
    ∃ front c back, letters o value = front ++ (c, fault.column) :: back ∧
      IsFault o.opening o.closing (front.map Prod.fst) c (back.map Prod.fst) := by
  rw [fault?_eq] at h
  cases hread : read o.opening o.closing [] (letters o value) with
  | error found =>
    rw [hread] at h
    obtain rfl : found = fault := Option.some.inj h
    obtain ⟨front, c, column, back, stack, hword, hfront, hstep⟩ := exists_of_read_eq_error hread
    obtain rfl := column_of_step_eq_error hstep
    refine ⟨front, c, back, hword, .deadEnd ?_ ?_⟩
    · have hlisted : ∀ p ∈ front, p.1 ∈ o.opening ∨ p.1 ∈ o.closing := fun p hp =>
        listed_of_mem_letters p (by rw [hword]; exact List.mem_append_left _ hp)
      exact (Leaves.of_read hlisted hfront).isExtendable hlength
    · have hdead : read o.opening o.closing [] (front ++ [(c, found.column)]) = .error found := by
        rw [read_append_of_ok hfront, read_cons_of_error hstep]
      simpa using not_isExtendable_of_read hapart hdead
  | ok stack =>
    have hleaves := Leaves.of_read listed_of_mem_letters hread
    rw [hread, verdict, Option.map_eq_some_iff] at h
    obtain ⟨first, hfirst, rfl⟩ := h
    obtain ⟨front, c, back, hword, hopening, hfront⟩ := hleaves.exists_outermost hfirst
    have hc := List.mem_of_getElem? (getElem?_of_idxOf? hopening)
    refine ⟨front, c, back, hword, .unpaired ?_ hc ?_ ?_⟩
    · intro start hstart
      have hall := hleaves.isExtendable hlength
      rw [hword, List.map_append, List.map_cons] at hall
      exact hall.of_prefix hstart
    · exact not_hasPartner_of_read hapart hread (List.mem_of_getLast? hfirst) hword hfront
    · intro before d behind hbefore hd
      exact (hfront.hasPartner hapart hbefore hd).append _

end Faults

/-! ### Findings -/

/-- Lists that pair up are not complained about, and what is found on a line is the fault of its value. -/
theorem filter_findings {o : PairOptions} (hne : o.opening ≠ []) (hlength : o.opening.length = o.closing.length)
    {d : Content} {number : Nat} {line : Line} {value : String} (hline : d.line? number = some line)
    (hvalue : line.inspected? o.comments = some value) :
    (findings o d).filter (fun x => x.line? = some number) =
      (fault? o.opening o.closing o.ignoreQuoted value.toList).toList.map fun fault =>
        .graded (some (.atColumn number fault.column)) line.key? fault.message := by
  have hclosing : o.closing ≠ [] := by
    intro hempty
    rw [hempty, List.length_nil, List.length_eq_zero_iff] at hlength
    exact hne hlength
  have hcomplaint : complaint? o = none := by simp [complaint?, hne, hclosing, hlength]
  rw [findings_eq, hcomplaint, Option.elim_none, Content.filter_inspect (inspects o).pointing, hline, Option.elim_some,
    inspectLine, hvalue]

/-- A closing character that is compared with the innermost opening one never fits it. There is one finding on a
line at most, and if there is none, pairs nest in the word of its value. Where no character is listed on both sides
there is none exactly if they nest, and a finding is at the first letter with which the word can go on no more, or at
the first opening character without a partner if it always can. -/
theorem nesting_decided (o : PairOptions) :
    (∀ (column : Nat) (c : Char) (top : Pending) (rest : List Pending) (pair : Nat),
      o.closing[top.pair]? ≠ some c → o.opening.idxOf? c = none → o.closing.idxOf? c = some pair →
      pair ≠ top.pair ∧ step o.opening o.closing column c (top :: rest) =
        .error (.wrongClosing column (o.closing.getD top.pair c) c)) ∧
    (o.opening ≠ [] → o.opening.length = o.closing.length →
      ∀ (d : Content) (number : Nat) (line : Line) (value : String), d.line? number = some line →
        line.inspected? o.comments = some value →
        let word := letters o value.toList
        let found := (findings o d).filter fun x => x.line? = some number
        found.length ≤ 1 ∧ (found = [] → Nested o.opening o.closing (word.map Prod.fst)) ∧
        ((∀ c ∈ o.opening, c ∉ o.closing) →
          (found = [] ↔ Nested o.opening o.closing (word.map Prod.fst)) ∧
          ∀ x ∈ found, ∃ front c column back, word = front ++ (c, column) :: back ∧
            x.position = some (.atColumn number column) ∧
            IsFault o.opening o.closing (front.map Prod.fst) c (back.map Prod.fst))) := by
  refine ⟨fun _ _ _ _ _ hclosing hopening hpair => step_of_closing_compared hclosing hopening hpair, ?_⟩
  intro hne hlength d number line value hline hvalue word found
  have hfound : found = (fault? o.opening o.closing o.ignoreQuoted value.toList).toList.map fun fault =>
      .graded (some (.atColumn number fault.column)) line.key? fault.message :=
    filter_findings hne hlength hline hvalue
  have hempty : found = [] ↔ fault? o.opening o.closing o.ignoreQuoted value.toList = none := by
    rw [hfound, List.map_eq_nil_iff, Option.toList_eq_nil_iff]
  refine ⟨?_, fun h => nested_of_fault? (hempty.1 h), fun hapart => ⟨?_, ?_⟩⟩
  · rw [hfound, List.length_map]
    exact Option.length_toList_le
  · rw [hempty, fault?_eq_none_iff hapart]
  · intro x hx
    rw [hfound, List.mem_map] at hx
    obtain ⟨fault, hfault, rfl⟩ := hx
    obtain ⟨front, c, back, hword, hplace⟩ := isFault_of_fault? hapart hlength (Option.mem_toList.1 hfault)
    exact ⟨front, c, fault.column, back, hword, by rw [Finding.graded_eq], hplace⟩

/-- The bracket between quotes is left out, and the two other pairs cross. -/
theorem nesting_decided_crossing_pairs :
    let o : PairOptions := .brackets
    let d := (Bundle.empty.read .standard "a = (x)\nk = \"]\" (a[b) c]").1.content
    let found := (findings o d).filter fun x => x.line? = some 2
    o.opening ≠ [] ∧ o.opening.length = o.closing.length ∧ (∀ c ∈ o.opening, c ∉ o.closing) ∧
      (d.line? 2).bind (Line.inspected? o.comments) = some "\"]\" (a[b) c]" ∧
      found = [.error (some (.atColumn 2 9)) (some "k") "Expected \"]\", found \")\"."] ∧
      ¬ Nested o.opening o.closing ['(', '[', ')', ']'] ∧
      ∃ front c back, [('(', 5), ('[', 7), (')', 9), (']', 12)] = front ++ (c, 9) :: back ∧
        IsFault o.opening o.closing (front.map Prod.fst) c (back.map Prod.fst) := by
  intro o d found
  have hvalue : (d.line? 2).bind (Line.inspected? o.comments) = some "\"]\" (a[b) c]" := by decide +kernel
  have hfound : found = [.error (some (.atColumn 2 9)) (some "k") "Expected \"]\", found \")\"."] := by decide +kernel
  have hword : letters o "\"]\" (a[b) c]".toList = [('(', 5), ('[', 7), (')', 9), (']', 12)] := by decide +kernel
  have hapart : ∀ c ∈ o.opening, c ∉ o.closing := by simp [o, PairOptions.brackets]
  obtain ⟨line, hline, hinspected⟩ := Option.bind_eq_some_iff.1 hvalue
  obtain ⟨-, hdecided⟩ := nesting_decided o
  obtain ⟨-, -, hexact⟩ := hdecided (by decide) rfl d 2 line _ hline hinspected
  obtain ⟨hiff, hplaces⟩ := hexact hapart
  rw [hword] at hiff hplaces
  refine ⟨by decide, rfl, hapart, hvalue, hfound, ?_, ?_⟩
  · intro hnested
    have hnone : found = [] := hiff.2 hnested
    rw [hfound] at hnone
    cases hnone
  · obtain ⟨front, c, column, back, hfront, hposition, hfault⟩ := hplaces _ (hfound ▸ List.mem_singleton_self _)
    obtain rfl : 9 = column := by simpa [Finding.error, Position.atColumn] using hposition
    exact ⟨front, c, back, hfront, hfault⟩

end BundleCheck.Nesting
