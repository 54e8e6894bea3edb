import BundleCheck.Proofs.Pattern.Runs
import BundleCheck.Proofs.Pattern.Ways

/-!
# What a search finds

A search reads a text backwards and keeps, for each character of the pattern, the ending that follows once that
character has been read. `Outlook.Informed` says what such a note is worth: behind the character a match can end
there, and if one can end at all there is a note. One step hands this on, from a place to the place before it,
and so at every place of the text the search knows whether a match begins there. By `Expression.occursIn_iff` it
finds a pattern just where it has a match, and by `Expression.isLeftmost_of_find?` what it finds is a match before
which none begins.
-/

namespace BundleCheck.Pattern

open Cursor

/-! ### Endings -/

/-- The ending is one of those that are possible, and there is one if any is possible. -/
def Tells (e : Ending) (p : Nat → Prop) : Prop := (∀ k ∈ e, p k) ∧ ∀ k, p k → e.isSome = true

namespace Tells

variable {e e' : Ending} {p q : Nat → Prop}

theorem congr (h : Tells e p) (hpq : ∀ k, p k ↔ q k) : Tells e q :=
  ⟨fun k hk => (hpq k).1 (h.1 k hk), fun k hk => h.2 k ((hpq k).2 hk)⟩

theorem of_none (h : ∀ k, ¬ p k) : Tells none p :=
  ⟨nofun, fun k hk => absurd hk (h k)⟩

theorem or (h : Tells e p) (h' : Tells e' q) : Tells (e.or e') fun k => p k ∨ q k := by
  refine ⟨fun k hk => ?_, fun k hk => ?_⟩
  · rcases Option.or_eq_some_iff.1 hk with hk | ⟨-, hk⟩
    · exact .inl (h.1 k hk)
    · exact .inr (h'.1 k hk)
  · rw [Option.isSome_or, Bool.or_eq_true]
    exact hk.imp (h.2 k) (h'.2 k)

theorem or_swap (h : Tells e p) (h' : Tells e' q) : Tells (e'.or e) fun k => p k ∨ q k :=
  (h'.or h).congr fun _ => Or.comm

/-- An ending that counts under a condition only. -/
theorem filter (h : Tells e p) (condition : Bool) :
    Tells (e.filter fun _ => condition) fun k => condition = true ∧ p k := by
  cases e with
  | none => exact of_none fun k hk => nomatch h.2 k hk.2
  | some found => cases condition <;> simp_all [Tells, Option.filter]

end Tells

/-! ### What an outlook knows -/

/-- The cursor is the first one or comes behind it. -/
def Cursor.IsFrom (first : Option Cursor) (y : Cursor) : Prop := ∃ x ∈ first, y.ahead.length ≤ x.ahead.length

theorem Cursor.IsFrom.ne {x y : Cursor} (h : y.IsFrom x.next?) : y ≠ x := by
  rintro rfl
  obtain ⟨z, hz, hle⟩ := h
  unfold next? at hz
  split at hz
  · cases hz
  · rename_i c rest hahead
    rw [← Option.some.inj hz, hahead, List.length_cons] at hle
    exact Nat.not_succ_le_self _ hle

namespace Outlook

variable {a : Outlook} {behind outside behind' outside' : Prospect} {x : Cursor}

/-- Every character of the outlook knows the ending that follows if it is the one before the cursor. -/
def Informed (first : Option Cursor) (behind outside : Prospect) : Outlook → Prop
  | .empty | .at _ => True
  | .one _ next => Tells next fun k => ∃ y ∈ first, behind y k
  | .seq a b => a.Informed first (b.ways.ends behind outside) outside ∧ b.Informed first behind outside
  | .alt a b => a.Informed first behind outside ∧ b.Informed first behind outside
  | .block a => a.Informed first behind behind
  | .orLeave _ a => a.Informed first behind outside
  | .rounds _ a => a.Informed first (fun y k => ∃ n, (a.ways.times n).ends behind outside y k) outside

theorem isForward_ways (a : Outlook) : a.ways.IsForward := by
  induction a with
  | empty => exact Way.isForward_straight fun x y h => h ▸ Nat.le_refl _
  | one s next =>
    refine Way.isForward_straight fun x y ⟨c, _, hahead, _⟩ => ?_
    rw [hahead]
    exact Nat.le_succ _
  | «at» p => exact Way.isForward_straight fun x y h => h.1 ▸ Nat.le_refl _
  | seq a b iha ihb => exact iha.andThen ihb
  | alt a b iha ihb => exact fun out x y h => h.elim (iha out x y) (ihb out x y)
  | block a ih => exact Way.isForward_straight fun x y h => h.elim (ih false x y) (ih true x y)
  | orLeave greedy a ih => exact fun out x y h => h.elim (ih out x y) fun h => h.2 ▸ Nat.le_refl _
  | rounds greedy a ih => exact fun out x y ⟨n, h⟩ => ih.times _ out x y h

/-- What is known depends on what comes from the first cursor on. -/
theorem Informed.congr {first : Option Cursor} (h : a.Informed first behind outside)
    (hbehind : ∀ y, y.IsFrom first → ∀ k, behind y k ↔ behind' y k)
    (houtside : ∀ y, y.IsFrom first → ∀ k, outside y k ↔ outside' y k) : a.Informed first behind' outside' := by
  induction a generalizing behind outside behind' outside' with
  | empty | «at» p => trivial
  | one s next =>
    refine Tells.congr h fun k => exists_congr fun y => and_congr_right fun hy => ?_
    exact hbehind y ⟨y, hy, Nat.le_refl _⟩ k
  | seq a b iha ihb =>
    refine ⟨iha h.1 (fun y ⟨x, hx, hy⟩ k => ?_) houtside, ihb h.2 hbehind houtside⟩
    exact b.isForward_ways.ends_congr (fun z hz => hbehind z ⟨x, hx, hz.trans hy⟩ k)
      fun z hz => houtside z ⟨x, hx, hz.trans hy⟩ k
  | alt a b iha ihb => exact ⟨iha h.1 hbehind houtside, ihb h.2 hbehind houtside⟩
  | block a ih => exact ih h hbehind hbehind
  | orLeave greedy a ih => exact ih h hbehind houtside
  | rounds greedy a ih =>
    refine ih h (fun y ⟨x, hx, hy⟩ k => exists_congr fun n => ?_) houtside
    exact (a.isForward_ways.times n).ends_congr (fun z hz => hbehind z ⟨x, hx, hz.trans hy⟩ k)
      fun z hz => houtside z ⟨x, hx, hz.trans hy⟩ k

/-! ### One place -/

theorem ways_advance (g : Gap) (a : Outlook) (exit left : Ending) : (a.advance g exit left).2.ways = a.ways := by
  induction a generalizing exit left with
  | empty | one | «at» => rfl
  | seq a b iha ihb => simp only [advance, ways, iha, ihb]
  | alt a b iha ihb => simp only [advance, ways, iha, ihb]
  | block a ih => simp only [advance, ways, ih]
  | orLeave greedy a ih => simp only [advance, ways, ih]
  | rounds greedy a ih => simp only [advance, ways, ih]

theorem ending_tells {exit left : Ending} (h : a.Informed x.next? behind outside) (hexit : Tells exit (behind x))
    (hleft : Tells left (outside x)) : Tells (a.ending x.gap exit left) (a.ways.ends behind outside x) := by
  induction a generalizing behind outside exit left with
  | empty => exact hexit.congr fun k => by simp [ways, Way.ends_straight]
  | one s next =>
    refine (Tells.filter h _).congr fun k => ?_
    simp only [ways, Way.ends_straight, takes_iff, and_assoc, exists_and_left]
    rfl
  | «at» p =>
    rw [ending]
    split
    · rename_i hp
      exact hexit.congr fun k => by simp [ways, Way.ends_straight, hp]
    · rename_i hp
      exact .of_none fun k => by simp [ways, Way.ends_straight, hp]
  | seq a b iha ihb =>
    rw [ways, Way.ends_andThen]
    exact iha h.1 (ihb h.2 hexit hleft) hleft
  | alt a b iha ihb =>
    exact ((iha h.1 hexit hleft).or (ihb h.2 hexit hleft)).congr fun k => Way.ends_either.symm
  | block a ih =>
    refine (ih h hexit hexit).congr fun k => ?_
    rw [ways, Way.ends_straight]
    simp only [Way.ends]
    grind
  | orLeave greedy a ih =>
    have hends : ∀ k, a.ways.ends behind outside x k ∨ outside x k ↔
        (orLeave greedy a).ways.ends behind outside x k := by
      intro k
      rw [ways, Way.ends_either, Way.ends_leaving]
    rw [ending]
    split
    · exact ((ih h hexit hleft).or hleft).congr hends
    · exact ((ih h hexit hleft).or_swap hleft).congr hends
  | rounds greedy a ih =>
    have hrounds : a.Informed x.next? (fun y k => ∃ n, (a.ways.times n).ends behind outside y k) outside := h
    -- A first round that passes nothing is the last, so the match ends behind it as it does behind all rounds.
    have hfirst : Tells (a.ending x.gap exit left) (a.ways.ends
        (fun y k => y = x ∧ behind y k ∨ y ≠ x ∧ ∃ n, (a.ways.times n).ends behind outside y k) outside x) :=
      ih (hrounds.congr (fun y hy k => by simp [hy.ne]) fun _ _ _ => Iff.rfl) (hexit.congr fun k => by simp) hleft
    refine hfirst.congr fun k => ?_
    rw [← Way.exists_ends_times_succ_iff, ways, Way.ends_again]

theorem again_tells {exit left : Ending} (greedy : Bool)
    (h : a.Informed x.next? (fun y k => ∃ n, (a.ways.times n).ends behind outside y k) outside)
    (hexit : Tells exit (behind x)) (hleft : Tells left (outside x)) :
    Tells (again x.gap greedy a exit left) fun k => ∃ n, (a.ways.times n).ends behind outside x k := by
  have hround : Tells (a.ending x.gap none left)
      (a.ways.ends (fun y k => y ≠ x ∧ ∃ n, (a.ways.times n).ends behind outside y k) outside x) :=
    ending_tells (h.congr (fun y hy k => (and_iff_right hy.ne).symm) fun _ _ _ => Iff.rfl)
      (.of_none fun k hk => hk.1 rfl) hleft
  rw [again]
  split
  · exact (hround.or hexit).congr fun k => Way.exists_ends_times_iff.symm
  · exact (hround.or_swap hexit).congr fun k => Way.exists_ends_times_iff.symm

/-- Passing a place, an outlook learns what follows from there. -/
theorem informed_advance {exit left : Ending} (h : a.Informed x.next? behind outside) (hexit : Tells exit (behind x))
    (hleft : Tells left (outside x)) : (a.advance x.gap exit left).2.Informed (some x) behind outside := by
  induction a generalizing behind outside exit left with
  | empty | «at» p => trivial
  | one s next => exact hexit.congr fun k => by simp
  | seq a b iha ihb =>
    have hb := ending_tells h.2 hexit hleft
    rw [← advance_fst] at hb
    refine ⟨?_, ihb h.2 hexit hleft⟩
    rw [ways_advance]
    exact iha h.1 hb hleft
  | alt a b iha ihb => exact ⟨iha h.1 hexit hleft, ihb h.2 hexit hleft⟩
  | block a ih => exact ih h hexit hexit
  | orLeave greedy a ih => exact ih h hexit hleft
  | rounds greedy a ih =>
    have hlater := ih h (again_tells greedy h hexit hleft) hleft
    rwa [advance, Informed, ways_advance]

/-! ### Behind the end of the text -/

/-- Nothing is known of what follows, as there is nothing before it. -/
def IsFresh (a : Outlook) : Prop := ∀ behind outside, a.Informed none behind outside

theorem isFresh_one (s : CharSet) : (one s none).IsFresh := fun _ _ => .of_none fun _ ⟨_, hy, _⟩ => nomatch hy

theorem isFresh_ofWord (cs : List Char) : (ofWord cs).IsFresh := by
  induction cs using ofWord.induct with
  | case1 => exact fun _ _ => trivial
  | case2 c => exact isFresh_one _
  | case3 c rest h ih =>
    intro behind outside
    rw [ofWord]
    · exact ⟨isFresh_one _ _ _, ih _ _⟩
    · exact h

theorem IsFresh.times (ha : a.IsFresh) (n : Nat) : (times n a).IsFresh := by
  have hcopies : ∀ steps n, (copies a steps n).IsFresh := by
    intro steps
    induction steps with
    | zero =>
      intro n
      match n with
      | 0 | _ + 2 => exact fun _ _ => trivial
      | 1 => exact ha
    | succ steps ih =>
      intro n
      match n with
      | 0 => exact fun _ _ => trivial
      | 1 => exact ha
      | n + 2 => exact fun _ _ => ⟨ih _ _ _, ih _ _ _⟩
  exact hcopies n n

theorem IsFresh.repeated (ha : a.IsFresh) (greedy : Bool) (low : Nat) (high : Option Nat) :
    (repeated greedy low high a).IsFresh := by
  have hrounds : (rounds greedy a).IsFresh := fun _ _ => ha _ _
  have hleave : (orLeave greedy a).IsFresh := fun _ _ => ha _ _
  have hupTo : ∀ n, (upTo greedy n a).IsFresh := fun n _ _ => hleave.times n _ _
  unfold Outlook.repeated
  split
  · exact fun _ _ => ha _ _
  · exact hrounds
  · exact fun _ _ => ⟨ha.times _ _ _, hrounds _ _⟩
  · exact hupTo _
  · split
    · exact ha.times _
    · exact fun _ _ => ⟨ha.times _ _ _, hupTo _ _ _⟩

theorem isFresh_ofExpression (a : Expression) : (ofExpression a).IsFresh := by
  induction a with
  | empty | «at» => exact fun _ _ => trivial
  | word cs => exact isFresh_ofWord cs
  | one s => exact isFresh_one s
  | group number a ih => exact ih
  | repeated greedy low high a ih => exact ih.repeated greedy low high
  | seq a b iha ihb | alt a b iha ihb => exact fun _ _ => ⟨iha _ _, ihb _ _⟩

end Outlook

/-! ### A whole text -/

theorem Gap.length_ofText (text : List Char) : (ofText text).length = text.length + 1 := by
  simp [ofText]

/-- What has been read of a text from its end, in terms of the pattern alone. -/
structure Scan.Knows (a : Expression) (x : Cursor) (s : Scan) : Prop where
  read : s.read = x.ahead.length + 1
  ways : s.outlook.ways = .straight a.Reads
  informed : s.outlook.Informed (some x) (fun y k => k = y.ahead.length) fun _ _ => False

/-- The ending is the number of characters behind a match that begins at the cursor. -/
def Expression.Ends (a : Expression) (x : Cursor) (e : Ending) : Prop :=
  Tells e fun k => ∃ y, a.Reads x y ∧ k = y.ahead.length

theorem Scan.knows_step {a : Expression} {x : Cursor} {s : Scan} (hread : s.read = x.ahead.length)
    (hways : s.outlook.ways = .straight a.Reads)
    (hinformed : s.outlook.Informed x.next? (fun y k => k = y.ahead.length) fun _ _ => False) :
    (s.step x.gap).Knows a x ∧ ∃ e, (s.step x.gap).endings = e :: s.endings ∧ a.Ends x e := by
  have hexit : Tells (some s.read) fun k => k = x.ahead.length := by simp [Tells, hread]
  have hleft : Tells none fun _ => False := .of_none fun _ => id
  refine ⟨⟨?_, ?_, ?_⟩, _, rfl, ?_⟩
  · show s.read + 1 = _
    rw [hread]
  · show (s.outlook.advance x.gap (some s.read) none).2.ways = _
    rw [Outlook.ways_advance, hways]
  · exact Outlook.informed_advance hinformed hexit hleft
  · rw [Outlook.advance_fst]
    refine (Outlook.ending_tells hinformed hexit hleft).congr fun k => ?_
    rw [hways, Way.ends_straight]

namespace Expression

variable {a : Expression} {text before found after : List Char} {m : Match}

/-- A scan of a text knows the pattern by its meaning, and has the ending for each place. -/
theorem foldr_step (a : Expression) (before : Option Char) (text : List Char) :
    ((Gap.ofTextBehind before text).foldr Scan.step (.start a)).Knows a ⟨before, text⟩ ∧
      ∀ front rest, text = front ++ rest →
        ∃ e, ((Gap.ofTextBehind before text).foldr Scan.step (.start a)).endings[front.length]? = some e ∧
          a.Ends ⟨front.getLast?.or before, rest⟩ e := by
  induction text generalizing before with
  | nil =>
    obtain ⟨hknows, e, hendings, he⟩ := Scan.knows_step (x := ⟨before, []⟩) (s := .start a) rfl
      (Outlook.ways_ofExpression a) (Outlook.isFresh_ofExpression a _ _)
    refine ⟨hknows, fun front rest hsplit => ?_⟩
    obtain ⟨rfl, rfl⟩ := List.append_eq_nil_iff.1 hsplit.symm
    exact ⟨e, congrArg (·[0]?) hendings, he⟩
  | cons c text ih =>
    obtain ⟨hbehind, hlater⟩ := ih (some c)
    obtain ⟨hknows, e, hendings, he⟩ := Scan.knows_step (x := ⟨before, c :: text⟩) hbehind.read hbehind.ways
      hbehind.informed
    refine ⟨hknows, fun front rest hsplit => ?_⟩
    cases front with
    | nil =>
      rw [List.nil_append] at hsplit
      exact ⟨e, congrArg (·[0]?) hendings, hsplit ▸ he⟩
    | cons d front =>
      obtain ⟨rfl, hrest⟩ := List.cons.inj hsplit
      obtain ⟨later, hat, hends⟩ := hlater front rest hrest
      refine ⟨later, (congrArg (·[front.length + 1]?) hendings).trans hat, ?_⟩
      have hlast : (c :: front).getLast? = front.getLast?.or (some c) := List.getLast?_append (l := [c])
      rwa [hlast, Option.or_assoc, Option.some_or]

/-- There is an ending, or none, for each place of the text. -/
theorem length_endings (a : Expression) (text : List Char) : (a.endings text).length = text.length + 1 := by
  have hscan : ∀ gaps : List Gap, (gaps.foldr Scan.step (.start a)).endings.length = gaps.length := by
    intro gaps
    induction gaps with
    | nil => rfl
    | cons g rest ih =>
      rw [List.foldr_cons, List.length_cons, ← ih]
      rfl
  rw [endings, hscan, Gap.length_ofText]

/-- At each place, the ending is that of a match which begins there. -/
theorem tells_of_endings {i : Nat} {e : Ending} (h : (a.endings text)[i]? = some e) :
    ∃ front rest, text = front ++ rest ∧ front.length = i ∧
      Tells e fun k => ∃ found after, rest = found ++ after ∧ a.Matches front found after ∧ k = after.length := by
  obtain ⟨hi, -⟩ := List.getElem?_eq_some_iff.1 h
  rw [length_endings] at hi
  have hlength : (text.take i).length = i := List.length_take_of_le (Nat.le_of_lt_succ hi)
  refine ⟨text.take i, text.drop i, (List.take_append_drop i text).symm, hlength, ?_⟩
  obtain ⟨e', hat, he⟩ := (foldr_step a none text).2 _ _ (List.take_append_drop i text).symm
  rw [hlength] at hat
  rw [← Option.some.inj (h.symm.trans hat)] at he
  refine Tells.congr he fun k => ?_
  simp only [Option.or_none, reads_iff_matches]
  constructor
  · rintro ⟨y, ⟨found, hrest, -, hmatch⟩, rfl⟩
    exact ⟨found, y.ahead, hrest, hmatch, rfl⟩
  · rintro ⟨found, after, hrest, hmatch, rfl⟩
    exact ⟨⟨(text.take i ++ found).getLast?, after⟩, ⟨found, hrest, rfl, hmatch⟩, rfl⟩

theorem isSome_of_matches (h : a.Matches before found after) :
    ∃ k, (a.endings (before ++ found ++ after))[before.length]? = some (some k) := by
  have hlt : before.length < (a.endings (before ++ found ++ after)).length := by
    rw [length_endings, List.append_assoc, List.length_append]
    exact Nat.lt_succ_of_le (Nat.le_add_right _ _)
  obtain ⟨front, rest, hsplit, hlength, htells⟩ := tells_of_endings (List.getElem?_eq_getElem hlt)
  rw [List.append_assoc] at hsplit
  obtain ⟨rfl, rfl⟩ := List.append_inj hsplit hlength.symm
  obtain ⟨k, hk⟩ := Option.isSome_iff_exists.1 (htells.2 _ ⟨found, after, rfl, h, rfl⟩)
  exact ⟨k, by rw [List.getElem?_eq_getElem hlt, hk]⟩

theorem occursIn_iff : a.occursIn text = true ↔ a.Occurs text := by
  rw [occursIn, List.any_eq_true]
  constructor
  · rintro ⟨e, hmem, he⟩
    obtain ⟨i, hat⟩ := List.mem_iff_getElem?.1 hmem
    obtain ⟨k, rfl⟩ := Option.isSome_iff_exists.1 he
    obtain ⟨front, rest, rfl, -, htells⟩ := tells_of_endings hat
    obtain ⟨found, after, rfl, hmatch, -⟩ := htells.1 k rfl
    exact ⟨front, found, after, (List.append_assoc ..).symm, hmatch⟩
  · rintro ⟨before, found, after, rfl, hmatch⟩
    obtain ⟨k, hk⟩ := isSome_of_matches hmatch
    exact ⟨some k, List.mem_of_getElem? hk, rfl⟩

theorem find?_eq_none_iff : a.find? text = none ↔ ¬ a.Occurs text := by
  rw [find?, List.findSome?_eq_none_iff, ← occursIn_iff, occursIn, Bool.not_eq_true, List.any_eq_false]
  constructor
  · intro h e hmem
    obtain ⟨i, hat⟩ := List.mem_iff_getElem?.1 hmem
    have hnone := h (e, i) (List.mem_zipIdx_iff_getElem?.2 hat)
    rw [Option.map_eq_none_iff.1 hnone]
    simp
  · rintro h ⟨e, i⟩ hmem
    have hnone := h e (List.fst_mem_of_mem_zipIdx hmem)
    rw [Option.not_isSome_iff_eq_none.1 hnone]
    rfl

/-- A search finds the match that begins first. -/
theorem isLeftmost_of_find? (h : a.find? text = some m) :
    ∃ before after, a.IsLeftmost text before m.text after ∧ m.start = before.length := by
  obtain ⟨passed, ⟨e, start⟩, later, hlist, hfound, hpassed⟩ := List.findSome?_eq_some_iff.1 h
  obtain ⟨k, rfl, rfl⟩ := Option.map_eq_some_iff.1 hfound
  have hplace : ∀ (i : Nat) (e : Ending), (a.endings text)[i]? = some e ↔
      (passed ++ (some k, start) :: later)[i]? = some (e, i) := by
    intro i e
    rw [← hlist, List.getElem?_zipIdx, Nat.zero_add, Option.map_eq_some_iff]
    simp
  have hstart : passed.length = start := by
    have hlast := congrArg (·[passed.length]?) hlist
    simp [List.getElem?_zipIdx] at hlast
    exact hlast.2
  have hat : (a.endings text)[start]? = some (some k) := by
    rw [hplace, ← hstart]
    simp
  obtain ⟨before, rest, rfl, rfl, htells⟩ := tells_of_endings hat
  obtain ⟨found, after, rfl, hmatch, rfl⟩ := htells.1 k rfl
  have hpart : ((before ++ (found ++ after)).drop before.length).take
      ((before ++ (found ++ after)).length - before.length - after.length) = found := by
    simp
  refine ⟨before, after, ?_, rfl⟩
  rw [hpart]
  refine ⟨(List.append_assoc ..).symm, hmatch, fun before' found' after' hsplit hmatch' => ?_⟩
  by_contra hlt
  rw [Nat.not_le] at hlt
  obtain ⟨k, hk⟩ := isSome_of_matches hmatch'
  rw [← hsplit, hplace, List.getElem?_append_left (by omega)] at hk
  cases hpassed _ (List.mem_of_getElem? hk)

theorem start_of_find? (h : a.find? text = some m) : m.start ≤ text.length := by
  obtain ⟨before, after, hleft, hstart⟩ := isLeftmost_of_find? h
  rw [hleft.text_eq, hstart, List.length_append, List.length_append]
  omega

end Expression

end BundleCheck.Pattern
