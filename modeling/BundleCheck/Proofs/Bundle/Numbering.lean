import BundleCheck.Proofs.Bundle.Assembly

/-!
# Numbers of lines

Reading leaves out every entry whose key an earlier line has, so a line of the content has a smaller number than
in its file once lines have been left out before it. `numbered` gives the lines that are kept and those that are
left out, each with its number in the file, and it tells how far the two numberings are apart.
-/

namespace BundleCheck

/-- Whether the line is an entry whose key is taken. -/
def Line.repeats (taken : List String) (line : Line) : Bool := line.key?.any taken.contains

theorem Line.repeats_eq_true_iff {taken : List String} {line : Line} :
    line.repeats taken = true ↔ ∃ key, line.key? = some key ∧ key ∈ taken := by
  simp [repeats, Option.any_eq_true]

/-- The lines that repeat a key, or those that do not, with their numbers. The first line has the given number,
and the given keys are taken before it. -/
def numbered (repeated : Bool) (taken : List String) (number : Nat) : List Line → List (Nat × Line)
  | [] => []
  | line :: rest =>
    if line.repeats taken = repeated then
      (number, line) :: numbered repeated (taken ++ keysOf [line]) (number + 1) rest
    else numbered repeated (taken ++ keysOf [line]) (number + 1) rest

theorem mem_keysOf_take {lines : List Line} {i : Nat} {key : String} :
    key ∈ keysOf (lines.take i) ↔ ∃ j, j < i ∧ lines[j]?.bind Line.key? = some key := by
  rw [keysOf, List.mem_filterMap]
  simp only [List.mem_iff_getElem?, List.getElem?_take]
  constructor
  · intro h
    obtain ⟨line, ⟨j, hj⟩, hkey⟩ := h
    split at hj
    · rename_i hlt
      exact ⟨j, hlt, by rw [hj, Option.bind_some, hkey]⟩
    · cases hj
  · intro h
    obtain ⟨j, hlt, hj⟩ := h
    obtain ⟨line, hline, hkey⟩ := Option.bind_eq_some_iff.1 hj
    exact ⟨line, ⟨j, by rw [if_pos hlt, hline]⟩, hkey⟩

variable {repeated : Bool} {taken : List String} {number n : Nat} {line : Line} {lines : List Line}

/-! ### Which lines are numbered -/

theorem mem_numbered : (n, line) ∈ numbered repeated taken number lines ↔
    ∃ i, n = number + i ∧ lines[i]? = some line ∧ line.repeats (taken ++ keysOf (lines.take i)) = repeated := by
  induction lines generalizing taken number with
  | nil => simp [numbered]
  | cons first rest ih =>
    have hkeys : ∀ i, taken ++ keysOf ((first :: rest).take (i + 1)) =
        taken ++ keysOf [first] ++ keysOf (rest.take i) := by
      intro i
      rw [List.take_succ_cons, keysOf_cons, List.append_assoc]
    have hrest : (n, line) ∈ numbered repeated (taken ++ keysOf [first]) (number + 1) rest ↔
        ∃ i, n = number + (i + 1) ∧ (first :: rest)[i + 1]? = some line ∧
          line.repeats (taken ++ keysOf ((first :: rest).take (i + 1))) = repeated := by
      simp only [ih, hkeys, List.getElem?_cons_succ, Nat.add_assoc, Nat.add_comm 1]
    rw [← Nat.or_exists_add_one, ← hrest, numbered]
    by_cases hfirst : first.repeats taken = repeated
    · rw [if_pos hfirst, List.mem_cons, Prod.mk.injEq]
      refine or_congr_left ⟨?_, ?_⟩
      · intro h
        obtain ⟨rfl, rfl⟩ := h
        exact ⟨rfl, rfl, by simpa [keysOf] using hfirst⟩
      · intro h
        obtain ⟨hn, hline, -⟩ := h
        exact ⟨hn, (Option.some.inj hline).symm⟩
    · rw [if_neg hfirst, iff_or_self]
      intro h
      obtain ⟨-, hline, hrepeats⟩ := h
      obtain rfl : first = line := Option.some.inj hline
      exact absurd (by simpa [keysOf] using hrepeats) hfirst

theorem le_of_mem_numbered {p : Nat × Line} (h : p ∈ numbered repeated taken number lines) : number ≤ p.1 := by
  obtain ⟨i, hi, -⟩ := mem_numbered.1 h
  omega

theorem pairwise_numbered (repeated : Bool) (taken : List String) (number : Nat) (lines : List Line) :
    (numbered repeated taken number lines).Pairwise fun a b => a.1 < b.1 := by
  induction lines generalizing taken number with
  | nil => exact .nil
  | cons first rest ih =>
    rw [numbered]
    split
    · refine .cons ?_ (ih _ _)
      intro p hp
      have hle := le_of_mem_numbered hp
      omega
    · exact ih _ _

theorem numbered_concat (repeated : Bool) (taken : List String) (number : Nat) (before : List Line) (line : Line) :
    numbered repeated taken number (before ++ [line]) = numbered repeated taken number before ++
      if line.repeats (taken ++ keysOf before) = repeated then [(number + before.length, line)] else [] := by
  induction before generalizing taken number with
  | nil => simp [numbered, keysOf]
  | cons first rest ih =>
    rw [List.cons_append, numbered, numbered, ih, keysOf_cons first rest, ← List.append_assoc, List.length_cons,
      Nat.add_right_comm, Nat.add_assoc number]
    split <;> rfl

theorem numbered_eq (repeated : Bool) (taken : List String) (number : Nat) (lines : List Line) :
    numbered repeated taken number lines =
      ((lines.zipIdx number).filter fun p =>
        p.1.repeats (taken ++ keysOf (lines.take (p.2 - number))) = repeated).map Prod.swap := by
  induction lines generalizing taken number with
  | nil => rfl
  | cons first rest ih =>
    have hrest : ∀ p ∈ rest.zipIdx (number + 1),
        decide (p.1.repeats (taken ++ keysOf [first] ++ keysOf (rest.take (p.2 - (number + 1)))) = repeated) =
          decide (p.1.repeats (taken ++ keysOf ((first :: rest).take (p.2 - number))) = repeated) := by
      intro p hp
      have hle := (List.mem_zipIdx hp).1
      rw [show p.2 - number = p.2 - (number + 1) + 1 by omega, List.take_succ_cons,
        keysOf_cons first (rest.take _), List.append_assoc]
    rw [numbered, ih, List.filter_congr hrest, List.zipIdx_cons, List.filter_cons]
    simp only [Nat.sub_self, List.take_zero, keysOf, List.filterMap_nil, List.append_nil, decide_eq_true_eq]
    split <;> rfl

/-- Each line is kept or left out. -/
theorem countP_numbered (taken : List String) (number : Nat) (lines : List Line) (q : Line → Bool) :
    (numbered true taken number lines).countP (fun p => q p.2) +
      (numbered false taken number lines).countP (fun p => q p.2) = lines.countP q := by
  induction lines generalizing taken number with
  | nil => rfl
  | cons line rest ih =>
    rw [numbered, numbered, List.countP_cons, ← ih (taken ++ keysOf [line]) (number + 1)]
    cases line.repeats taken with
    | true =>
      rw [if_pos rfl, if_neg (by decide), List.countP_cons, Nat.add_right_comm]
    | false =>
      rw [if_neg (by decide), if_pos rfl, List.countP_cons, Nat.add_assoc]

/-! ### How far the numberings are apart -/

/-- The number of a line that is kept is its place among these, and one more for each line left out before it. -/
theorem number_of_getElem?_numbered {i : Nat} (h : (numbered false taken number lines)[i]? = some (n, line)) :
    n = number + i + (numbered true taken number lines).countP fun p => p.1 < n := by
  induction lines generalizing taken number i with
  | nil => simp [numbered] at h
  | cons first rest ih =>
    rw [numbered] at h ⊢
    cases hfirst : first.repeats taken with
    | true =>
      simp only [hfirst, reduceCtorEq, if_false] at h
      have hlt : number < n := le_of_mem_numbered (List.mem_of_getElem? h)
      have hrest := ih h
      rw [if_pos rfl, List.countP_cons, if_pos (by simpa using hlt)]
      omega
    | false =>
      simp only [hfirst, if_true] at h
      rw [if_neg (by simp)]
      cases i with
      | zero =>
        simp only [List.getElem?_cons_zero, Option.some.injEq, Prod.mk.injEq] at h
        have hnone : (numbered true (taken ++ keysOf [first]) (number + 1) rest).countP (fun p => p.1 < n) = 0 := by
          rw [List.countP_eq_zero]
          intro p hp
          have hle := le_of_mem_numbered hp
          simp only [decide_eq_true_eq]
          omega
        omega
      | succ i =>
        rw [List.getElem?_cons_succ] at h
        have hrest := ih h
        omega

/-- As long as no line has been left out, the two numberings are the same. -/
theorem number_of_forall_lt {i : Nat} (h : (numbered false taken number lines)[i]? = some (n, line))
    (hlater : ∀ p ∈ numbered true taken number lines, number + i < p.1) : n = number + i := by
  induction lines generalizing taken number i with
  | nil => simp [numbered] at h
  | cons first rest ih =>
    rw [numbered] at h hlater
    cases hfirst : first.repeats taken with
    | true =>
      rw [if_pos hfirst] at hlater
      have hlt := hlater _ List.mem_cons_self
      omega
    | false =>
      simp only [hfirst, if_true] at h
      simp only [hfirst, Bool.false_eq_true, if_false] at hlater
      cases i with
      | zero =>
        simp only [List.getElem?_cons_zero, Option.some.injEq, Prod.mk.injEq] at h
        omega
      | succ i =>
        have hrest := ih h fun p hp => by
          have hlt := hlater p hp
          omega
        omega

theorem ne_of_mem_numbered {p q : Nat × Line} (hp : p ∈ numbered true taken number lines)
    (hq : q ∈ numbered false taken number lines) : p.1 ≠ q.1 := by
  obtain ⟨i, hi, hleft, hrepeats⟩ := mem_numbered.1 hp
  obtain ⟨j, hj, hright, hfree⟩ := mem_numbered.1 hq
  intro heq
  obtain rfl : i = j := by omega
  rw [hleft] at hright
  rw [Option.some.inj hright, hfree] at hrepeats
  cases hrepeats

theorem number_eq_iff_forall_lt {i : Nat} (h : (numbered false taken number lines)[i]? = some (n, line)) :
    n = number + i ↔ ∀ p ∈ numbered true taken number lines, number + i < p.1 := by
  refine ⟨?_, number_of_forall_lt h⟩
  intro hn p hp
  have hcount := number_of_getElem?_numbered h
  have hzero : (numbered true taken number lines).countP (fun p => p.1 < n) = 0 := by omega
  have hle : ¬ p.1 < n := by simpa using List.countP_eq_zero.1 hzero p hp
  have hne := ne_of_mem_numbered hp (List.mem_of_getElem? h)
  simp only at hne
  omega

/-- An entry that is kept is no other line of the file. -/
theorem getElem?_eq_iff_number_eq {i : Nat} (h : (numbered false taken number lines)[i]? = some (n, line))
    (hkey : line.key?.isSome = true) : lines[i]? = some line ↔ n = number + i := by
  obtain ⟨j, hj, hline, hrepeats⟩ := mem_numbered.1 (List.mem_of_getElem? h)
  constructor
  · intro hown
    have hcount := number_of_getElem?_numbered h
    obtain ⟨key, hkey⟩ := Option.isSome_iff_exists.1 hkey
    have hle : ¬ i < j := by
      intro hlt
      have hmem : key ∈ taken ++ keysOf (lines.take j) :=
        List.mem_append_right _ (mem_keysOf_take.2 ⟨i, hlt, by rw [hown, Option.bind_some, hkey]⟩)
      rw [Line.repeats_eq_true_iff.2 ⟨key, hkey, hmem⟩] at hrepeats
      cases hrepeats
    omega
  · intro hn
    obtain rfl : i = j := by omega
    exact hline

/-- The lines that are left out are those whose key an earlier line has. -/
theorem mem_map_fst_numbered : n ∈ (numbered true [] number lines).map Prod.fst ↔
    ∃ i, n = number + i ∧ ∃ key, lines[i]?.bind Line.key? = some key ∧
      ∃ j, j < i ∧ lines[j]?.bind Line.key? = some key := by
  simp only [List.mem_map, Prod.exists, exists_and_right, exists_eq_right, mem_numbered, List.nil_append,
    Line.repeats_eq_true_iff, mem_keysOf_take, Option.bind_eq_some_iff]
  constructor
  · intro h
    obtain ⟨line, i, hn, hline, key, hkey, hfirst⟩ := h
    exact ⟨i, hn, key, ⟨line, hline, hkey⟩, hfirst⟩
  · intro h
    obtain ⟨i, hn, key, ⟨line, hline, hkey⟩, hfirst⟩ := h
    exact ⟨line, i, hn, hline, key, hkey, hfirst⟩

/-! ### Which lines a content takes -/

theorem Content.Coherent.isFree_iff {d : Content} (hd : d.Coherent) (htaken : ∀ key, key ∈ taken ↔ key ∈ d.keys) :
    d.IsFree line ↔ line.repeats taken = false := by
  rw [← Bool.not_eq_true, Line.repeats_eq_true_iff]
  constructor
  · intro hfree h
    obtain ⟨key, hkey, hmem⟩ := h
    cases line with
    | entry e =>
      obtain rfl : e.key = key := Option.some.inj hkey
      have hcontains := hd.contains_iff.2 ((htaken e.key).1 hmem)
      rw [hfree e rfl] at hcontains
      cases hcontains
    | comment c => cases hkey
    | blank => cases hkey
  · intro h e he
    rw [← Bool.not_eq_true, hd.contains_iff, ← htaken]
    intro hmem
    exact h ⟨e.key, by rw [he]; rfl, hmem⟩

end BundleCheck
