import BundleCheck.Pattern.Reader

/-!
# Reading on

A pattern is read from its start to its end, and what has been read so far is all that counts for the rest. So a
written form whose parts are known can be read part by part, with any text behind each of them.
-/

namespace BundleCheck.Pattern

/-! ### Progress -/

namespace Progress

variable {p q r : Progress} {text rest later : List Char}

/-- Reading the first text in one state of the reader comes to reading the rest of it in another. More steps than
there are characters make no difference. -/
def Reaches (p : Progress) (text : List Char) (q : Progress) (rest : List Char) : Prop :=
  ∀ extra, ∃ extra', p.readAll (text.length + extra) text = q.readAll (rest.length + extra') rest

theorem Reaches.trans (h : Reaches p text q rest) (h' : Reaches q rest r later) : Reaches p text r later := by
  intro extra
  obtain ⟨more, hmore⟩ := h extra
  obtain ⟨extra', hrest⟩ := h' more
  exact ⟨extra', hmore.trans hrest⟩

theorem Reaches.refl (p : Progress) (text : List Char) : Reaches p text p text := fun extra => ⟨extra, rfl⟩

theorem reaches_of_read {c : Char} (passed : List Char) (h : p.read c (passed ++ rest) = .ok (q, rest)) :
    Reaches p (c :: (passed ++ rest)) q rest := by
  intro extra
  refine ⟨passed.length + extra, ?_⟩
  have hsteps : (c :: (passed ++ rest)).length + extra = rest.length + (passed.length + extra) + 1 := by
    rw [List.length_cons, List.length_append]
    omega
  rw [hsteps, readAll, h]

end Progress

/-! ### Literals -/

theorem single?_single (c : Char) : (CharSet.single c).single? = some c := by
  have hlt := CharSet.toNat_lt_codePoints c
  have hranges : (CharSet.single c).ranges = [(c.toNat, c.toNat)] := by
    rw [CharSet.ranges, CharSet.single, CharSet.range, CharSet.between]
    split
    · simp [CharSet.rangesOf]
    · rename_i h
      rw [if_pos (Nat.le_refl _)]
      simp only [CharSet.rangesOf, List.cons.injEq, Prod.mk.injEq, true_and, and_true]
      omega
  rw [CharSet.single?, hranges]
  simp [Char.ofNat_toNat]

theorem literal_eq_word (c : Char) : literal {} c = .word [c] := by
  have hfolded : Flags.folded {} (.single c) = .single c := rfl
  rw [literal, hfolded, Expression.ofSet, single?_single]

theorem ignores_plain (c : Char) : Flags.ignores {} c = false := rfl

theorem isEscapable_of_isMeta {c : Char} (h : isMeta c = true) : isEscapable c = true := by
  have hall : "\\.+*?()|[]\x7b\x7d^$#&-~".toList.all isEscapable = true := by decide
  exact List.all_eq_true.1 hall c (List.contains_iff_mem.1 h)

namespace Progress

variable {p : Progress} {rest : List Char}

/-- No flag has been set. -/
def IsPlain (p : Progress) : Prop := p.group.flags = {}

/-! ### Texts that mean themselves -/

theorem IsPlain.add (hp : IsPlain p) (a : Nested Expression) : IsPlain (p.add a) := hp

/-- The progress after the characters have been read one by one. -/
def addChars (p : Progress) (cs : List Char) : Progress :=
  let words := cs.map fun c => Part.expression (.flat (.word [c]))
  { p with group := { p.group with parts := words.reverse ++ p.group.parts } }

theorem addChars_cons (p : Progress) (c : Char) (cs : List Char) :
    addChars p (c :: cs) = addChars (p.add (.flat (.word [c]))) cs := by
  simp [addChars, add, OpenGroup.add]

theorem reaches_char (hp : IsPlain p) (c : Char) :
    p.Reaches (escape [c] ++ rest) (p.add (.flat (.word [c]))) rest := by
  have hflags : p.group.flags = {} := hp
  cases hc : isMeta c with
  | true =>
    have hescape : escape [c] ++ rest = '\\' :: ([c] ++ rest) := by simp [escape, hc]
    rw [hescape]
    refine reaches_of_read [c] ?_
    simp only [read, hflags, ignores_plain, Bool.false_eq_true, if_false, List.singleton_append, readEscape,
      isEscapable_of_isMeta hc, if_true]
    rw [← literal_eq_word]
    rfl
  | false =>
    have hescape : escape [c] ++ rest = c :: ([] ++ rest) := by simp [escape, hc]
    rw [hescape]
    refine reaches_of_read [] ?_
    unfold read
    simp only [hflags, ignores_plain, Bool.false_eq_true, if_false]
    rw [← literal_eq_word]
    -- A character with a meaning of its own is escaped, so only the last case remains.
    split <;> first | cases hc | rfl

theorem reaches_escape (hp : IsPlain p) (cs : List Char) : p.Reaches (escape cs ++ rest) (addChars p cs) rest := by
  induction cs generalizing p with
  | nil => exact .refl p rest
  | cons c cs ih =>
    have hsplit : escape (c :: cs) ++ rest = escape [c] ++ (escape cs ++ rest) := by simp [escape]
    rw [hsplit, addChars_cons]
    exact (reaches_char hp c).trans (ih (hp.add _))

theorem head?_escape_append (cs : List Char) (hrest : rest.head? ≠ some '?') :
    (escape cs ++ rest).head? ≠ some '?' := by
  cases cs with
  | nil => exact hrest
  | cons c cs =>
    rw [escape, List.flatMap_cons]
    split
    · simp
    · rename_i hc
      rintro h
      obtain rfl : c = '?' := Option.some.inj h
      exact hc rfl

/-! ### The end -/

/-- The parts of the group that is read, from the first to the last. -/
def ordered (p : Progress) : List Expression := p.group.parts.reverse.filterMap Part.expression?

theorem ordered_add (p : Progress) (a : Nested Expression) : ordered (p.add a) = ordered p ++ [a.value] := by
  simp [ordered, add, OpenGroup.add, Part.expression?]

theorem ordered_addChars (p : Progress) (cs : List Char) :
    ordered (addChars p cs) = ordered p ++ cs.map fun c => .word [c] := by
  simp [ordered, addChars, List.filterMap_map, Function.comp_def, Part.expression?, Nested.flat]

/-- No part has more than so many levels. -/
def IsLow (n : Nat) (p : Progress) : Prop := ∀ a ∈ p.group.parts, a.depth ≤ n

theorem IsLow.add {n : Nat} (hp : IsLow n p) {a : Nested Expression} (ha : a.depth ≤ n) : IsLow n (p.add a) :=
  List.forall_mem_cons.2 ⟨ha, hp⟩

theorem IsLow.addChars {n : Nat} (hp : IsLow n p) (cs : List Char) : IsLow n (addChars p cs) := by
  intro a ha
  rcases List.mem_append.1 ha with hword | ha
  · obtain ⟨c, -, rfl⟩ := List.mem_map.1 (List.mem_reverse.1 hword)
    exact Nat.zero_le n
  · exact hp a ha

theorem depthOf_le {depths : List Nat} {n : Nat} (h : ∀ d ∈ depths, d ≤ n) : depthOf depths ≤ n + 1 := by
  match depths with
  | [] => exact Nat.zero_le _
  | [d] => exact Nat.le_succ_of_le (h d List.mem_cons_self)
  | d :: e :: rest =>
    obtain ⟨m, hm⟩ : ∃ m, (d :: e :: rest).max? = some m := ⟨_, rfl⟩
    have hle := h m (List.max?_mem hm)
    show 1 + (d :: e :: rest).max?.getD 0 ≤ n + 1
    rw [hm, Option.getD_some]
    omega

/-- At the end, what has been read is the pattern, unless it is too large. -/
theorem readAll_nil {n : Nat} (houter : p.outer = []) (halternatives : p.group.alternatives = []) (hlow : IsLow n p)
    (hn : n < maxDepth) {a : Expression} (ha : Expression.ofAlternatives [.ofSeq (ordered p)] = a) (steps : Nat) :
    p.readAll steps [] = if a.isAffordable then .ok a else .error .tooLarge := by
  have hdepth : p.group.content.depth ≤ n + 1 := by
    have hcontent : p.group.content.depth = depthOf (p.group.parts.map Part.depth) := by
      rw [OpenGroup.content, halternatives]
      rfl
    rw [hcontent]
    exact depthOf_le (List.forall_mem_map.2 hlow)
  have hvalue : p.group.content.value = a := by
    rw [← ha, OpenGroup.content, halternatives]
    rfl
  rw [readAll]
  simp only [houter, List.isEmpty_nil, Bool.not_true, Bool.false_eq_true, if_false, hvalue]
  rw [if_neg (by omega)]
  cases a.isAffordable <;> rfl

end Progress

/-! ### Sequences -/

namespace Expression

/-- A word as a part of a sequence, in which no characters leave no trace. -/
def wordParts (cs : List Char) : List Expression := if cs = [] then [] else [.word cs]

theorem forall_mem_wordParts {cs : List Char} {P : Expression → Prop} (h : P (.word cs)) : ∀ a ∈ wordParts cs, P a := by
  rw [wordParts]
  split
  · exact List.forall_mem_nil P
  · exact List.forall_mem_singleton.2 h

/-- Characters one after the other make a word, where no word stands behind them. -/
theorem foldr_joinWords_map {cs : List Char} {a : Expression} {rest : List Expression} (ha : ∀ ds, a ≠ .word ds) :
    (cs.map fun c => word [c]).foldr joinWords (a :: rest) = wordParts cs ++ a :: rest := by
  induction cs with
  | nil => rfl
  | cons c cs ih =>
    rw [List.map_cons, List.foldr_cons, ih]
    cases cs with
    | nil =>
      cases a with
      | word ds => exact absurd rfl (ha ds)
      | _ => rfl
    | cons d cs => rfl

end Expression

end BundleCheck.Pattern
