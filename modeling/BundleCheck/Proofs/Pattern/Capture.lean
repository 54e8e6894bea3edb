import BundleCheck.Proofs.Pattern.Meaning

/-!
# What the ways to match say

The ways from a trail lead to the cursors that the pattern reads up to, and to no others; so there is a way just
where there is a match. Outside of groups a way changes nothing but the cursor. A group takes the text that it has
read, whichever way it was read in.
-/

namespace BundleCheck.Pattern

open Cursor

namespace Cursor

variable {x y : Cursor} {cs : List Char} {s : CharSet}

theorem behindWord?_eq_some_iff : x.behindWord? cs = some y ↔ Passes cs x y := by
  induction cs generalizing x with
  | nil =>
    rw [behindWord?, Option.some.injEq, passes_nil]
  | cons c cs ih =>
    rw [behindWord?, ← List.singleton_append, passes_append_iff]
    simp only [passes_singleton_iff, ← ih, Option.ite_none_right_eq_some, Option.bind_eq_some_iff, and_assoc,
      exists_and_left]

theorem behindOne?_eq_some_iff : x.behindOne? s = some y ↔ Takes s x y := by
  rw [behindOne?, takes_iff, Option.ite_none_right_eq_some]

theorem mem_ofText {before : Option Char} {text : List Char} :
    x ∈ ofText before text ↔ ∃ front, text = front ++ x.ahead ∧ x.before = front.getLast?.or before := by
  induction text generalizing before with
  | nil =>
    obtain ⟨b, ahead⟩ := x
    simp only [ofText, List.mem_singleton, Cursor.mk.injEq]
    constructor
    · rintro ⟨rfl, rfl⟩
      exact ⟨[], rfl, rfl⟩
    · rintro ⟨front, hfront, rfl⟩
      obtain ⟨rfl, rfl⟩ := List.append_eq_nil_iff.1 hfront.symm
      exact ⟨rfl, rfl⟩
  | cons c rest ih =>
    obtain ⟨b, ahead⟩ := x
    rw [ofText, List.mem_cons, ih]
    constructor
    · rintro (heq | ⟨front, rfl, hbefore⟩)
      · obtain ⟨rfl, rfl⟩ := Cursor.mk.inj heq
        exact ⟨[], rfl, rfl⟩
      · refine ⟨c :: front, rfl, ?_⟩
        rw [hbefore, List.getLast?_cons]
        cases front.getLast? <;> rfl
    · rintro ⟨front, htext, hbefore⟩
      cases front with
      | nil =>
        obtain rfl : b = before := hbefore
        exact .inl (by rw [htext, List.nil_append])
      | cons d front =>
        obtain ⟨rfl, rfl⟩ := List.cons.inj htext
        refine .inr ⟨front, rfl, ?_⟩
        rw [hbefore, List.getLast?_cons]
        cases front.getLast? <;> rfl

end Cursor

/-! ### Where the rounds of a repetition lead -/

namespace Trail

variable {t u : Trail} {round : Round} {greedy : Bool} {n steps low : Nat} {high : Option Nat}

theorem mem_moved {o : Option Cursor} : u ∈ t.moved o ↔ o = some u.cursor ∧ u.taken = t.taken := by
  obtain ⟨x, taken⟩ := u
  simp only [moved, List.mem_map, Option.mem_toList, Trail.mk.injEq]
  grind

theorem mem_orStay {on : List Trail} : u ∈ orStay greedy on t ↔ u ∈ on ∨ u = t := by
  cases greedy <;> simp [orStay, or_comm]

section Kept

variable {K : Trail → Trail → Prop} (hrefl : ∀ t, K t t) (htrans : ∀ {t u v}, K t u → K u v → K t v)
  (hround : ∀ t, ∀ u ∈ round t, K t u)

include hrefl htrans hround

theorem kept_times (h : u ∈ times round n t) : K t u := by
  induction n generalizing t with
  | zero => exact List.mem_singleton.1 h ▸ hrefl t
  | succ n ih =>
    obtain ⟨v, hv, hu⟩ := List.mem_flatMap.1 h
    exact htrans (hround t v hv) (ih hu)

theorem kept_upTo (h : u ∈ upTo greedy round n t) : K t u := by
  induction n generalizing t with
  | zero => exact List.mem_singleton.1 h ▸ hrefl t
  | succ n ih =>
    rcases mem_orStay.1 h with hon | rfl
    · obtain ⟨v, hv, hu⟩ := List.mem_flatMap.1 hon
      exact htrans (hround t v hv) (ih hu)
    · exact hrefl u

theorem kept_further (h : u ∈ further greedy round steps t) : K t u := by
  induction steps generalizing t with
  | zero => exact List.mem_singleton.1 h ▸ hrefl t
  | succ steps ih =>
    rcases mem_orStay.1 h with hon | rfl
    · obtain ⟨v, hv, hu⟩ := List.mem_flatMap.1 hon
      exact htrans (hround t v ((List.mem_filter.1 hv).1)) (ih hu)
    · exact hrefl u

theorem kept_rounds (h : u ∈ rounds greedy round t) : K t u := by
  obtain ⟨v, hv, hu⟩ := List.mem_flatMap.1 h
  split at hu
  · exact htrans (hround t v hv) (kept_further hrefl htrans hround hu)
  · exact List.mem_singleton.1 hu ▸ hround t v hv

/-- What each round keeps, the repetition keeps. -/
theorem kept_repeated (h : u ∈ repeated greedy low high round t) : K t u := by
  unfold repeated at h
  split at h
  · rcases mem_orStay.1 h with hon | rfl
    · exact kept_rounds hrefl htrans hround hon
    · exact hrefl u
  · obtain ⟨v, hv, hu⟩ := List.mem_flatMap.1 h
    exact htrans (kept_times hrefl htrans hround hv) (kept_rounds hrefl htrans hround hu)
  · obtain ⟨v, hv, hu⟩ := List.mem_flatMap.1 h
    exact htrans (kept_times hrefl htrans hround hv) (kept_upTo hrefl htrans hround hu)

end Kept

/-- The trails lead to the cursors that satisfy a predicate. -/
def LeadTo (trails : List Trail) (P : Cursor → Prop) : Prop := ∀ y, (∃ u ∈ trails, u.cursor = y) ↔ P y

variable {P Q : Cursor → Prop} {trails others : List Trail}

theorem LeadTo.congr (h : LeadTo trails P) (hPQ : ∀ y, P y ↔ Q y) : LeadTo trails Q :=
  fun y => (h y).trans (hPQ y)

theorem leadTo_self : LeadTo [t] (t.cursor = ·) := fun y => by simp

theorem LeadTo.append (h : LeadTo trails P) (hothers : LeadTo others Q) :
    LeadTo (trails ++ others) fun y => P y ∨ Q y := by
  intro y
  refine .trans ?_ (or_congr (h y) (hothers y))
  simp only [List.mem_append, or_and_right, exists_or]

theorem LeadTo.orStay (h : LeadTo trails P) : LeadTo (orStay greedy trails t) fun y => P y ∨ t.cursor = y := by
  intro y
  refine .trans ?_ (or_congr_left (h y))
  simp only [mem_orStay, or_and_right, exists_or, exists_eq_left]

theorem LeadTo.flatMap {R : Cursor → Cursor → Prop} (h : LeadTo trails P)
    (hround : ∀ u ∈ trails, LeadTo (round u) (R u.cursor)) :
    LeadTo (trails.flatMap round) fun z => ∃ y, P y ∧ R y z := by
  intro z
  constructor
  · rintro ⟨v, hv, hz⟩
    obtain ⟨u, hu, hv⟩ := List.mem_flatMap.1 hv
    exact ⟨u.cursor, (h _).1 ⟨u, hu, rfl⟩, (hround u hu z).1 ⟨v, hv, hz⟩⟩
  · rintro ⟨y, hy, hz⟩
    obtain ⟨u, hu, rfl⟩ := (h y).2 hy
    obtain ⟨v, hv, hvz⟩ := (hround u hu z).2 hz
    exact ⟨v, List.mem_flatMap.2 ⟨u, hu, hv⟩, hvz⟩

section Leads

variable {R : Cursor → Cursor → Prop} (hround : ∀ t, LeadTo (round t) (R t.cursor))

include hround

theorem leadTo_times (n : Nat) (t : Trail) : LeadTo (times round n t) (Rounds R n t.cursor) := by
  induction n generalizing t with
  | zero => exact leadTo_self
  | succ n ih => exact (hround t).flatMap fun u _ => ih u

theorem leadTo_upTo (n : Nat) (t : Trail) :
    LeadTo (upTo greedy round n t) fun y => ∃ m ≤ n, Rounds R m t.cursor y := by
  induction n generalizing t with
  | zero => exact leadTo_self.congr fun y => by simp [Rounds]
  | succ n ih =>
    refine ((hround t).flatMap (R := fun x y => ∃ m ≤ n, Rounds R m x y) fun u _ => ih u).orStay.congr fun y => ?_
    rw [show (∃ m ≤ n + 1, Rounds R m t.cursor y) ↔ Rounds R 0 t.cursor y ∨ ∃ m ≤ n, Rounds R (m + 1) t.cursor y
      from ⟨?_, ?_⟩, or_comm]
    · simp only [Rounds]
      grind
    · rintro ⟨m | m, hm, h⟩
      · exact .inl h
      · exact .inr ⟨m, Nat.le_of_succ_le_succ hm, h⟩
    · rintro (h | ⟨m, hm, h⟩)
      · exact ⟨0, Nat.zero_le _, h⟩
      · exact ⟨m + 1, Nat.succ_le_succ hm, h⟩

variable (hforward : ∀ x y, R x y → x = y ∨ y.ahead.length < x.ahead.length)

include hforward

/-- A round that reads nothing leads nowhere new, so only those that read something count. -/
theorem leadTo_further {steps : Nat} {t : Trail} (hsteps : t.cursor.ahead.length ≤ steps) :
    LeadTo (further greedy round steps t) fun y => ∃ n, Rounds R n t.cursor y := by
  intro y
  constructor
  · rintro ⟨u, hu, rfl⟩
    refine kept_further (K := fun t u => ∃ n, Rounds R n t.cursor u.cursor) (fun t => ⟨0, rfl⟩) ?_ ?_ hu
    · rintro t u v ⟨m, hm⟩ ⟨n, hn⟩
      exact ⟨m + n, rounds_add_iff.2 ⟨u.cursor, hm, hn⟩⟩
    · exact fun t u hu => ⟨1, u.cursor, (hround t _).1 ⟨u, hu, rfl⟩, rfl⟩
  · rintro ⟨n, hn⟩
    induction steps generalizing t n with
    | zero =>
      refine ⟨t, List.mem_singleton_self t, ?_⟩
      induction n with
      | zero => exact hn
      | succ n ih =>
        obtain ⟨z, hz, hrest⟩ := hn
        rcases hforward _ _ hz with heq | hlt
        · exact ih (heq ▸ hrest)
        · omega
    | succ steps ih =>
      induction n with
      | zero => exact ⟨t, mem_orStay.2 (.inr rfl), hn⟩
      | succ n ihn =>
        obtain ⟨z, hz, hrest⟩ := hn
        rcases hforward _ _ hz with heq | hlt
        · exact ihn (heq ▸ hrest)
        · obtain ⟨v, hv, rfl⟩ := (hround t z).2 hz
          obtain ⟨u, hu, hy⟩ := ih (t := v) (by omega) n hrest
          refine ⟨u, mem_orStay.2 (.inl (List.mem_flatMap.2 ⟨v, List.mem_filter.2 ⟨hv, ?_⟩, hu⟩)), hy⟩
          exact decide_eq_true hlt

theorem leadTo_rounds (t : Trail) :
    LeadTo (rounds greedy round t) fun y => ∃ n, Rounds R (n + 1) t.cursor y := by
  have hfurther : ∀ v : Trail,
      LeadTo (further greedy round v.cursor.ahead.length v) fun y => ∃ n, Rounds R n v.cursor y :=
    fun v => leadTo_further hround hforward (Nat.le_refl _)
  intro y
  constructor
  · rintro ⟨u, hu, rfl⟩
    obtain ⟨v, hv, hu⟩ := List.mem_flatMap.1 hu
    have hfirst := (hround t _).1 ⟨v, hv, rfl⟩
    split at hu
    · obtain ⟨n, hn⟩ := (hfurther v _).1 ⟨u, hu, rfl⟩
      exact ⟨n, v.cursor, hfirst, hn⟩
    · rw [List.mem_singleton.1 hu]
      exact ⟨0, v.cursor, hfirst, rfl⟩
  · rintro ⟨n, hn⟩
    induction n generalizing t with
    | zero =>
      obtain ⟨z, hz, rfl⟩ := hn
      obtain ⟨v, hv, rfl⟩ := (hround t z).2 hz
      by_cases hbehind : t.isBehind v = true
      · obtain ⟨u, hu, hy⟩ := (hfurther v _).2 ⟨0, rfl⟩
        exact ⟨u, List.mem_flatMap.2 ⟨v, hv, by rwa [if_pos hbehind]⟩, hy⟩
      · exact ⟨v, List.mem_flatMap.2 ⟨v, hv, by rw [if_neg hbehind]; exact List.mem_singleton_self v⟩, rfl⟩
    | succ n ih =>
      obtain ⟨z, hz, hrest⟩ := hn
      rcases hforward _ _ hz with heq | hlt
      · exact ih t (heq ▸ hrest)
      · obtain ⟨v, hv, rfl⟩ := (hround t z).2 hz
        obtain ⟨u, hu, hy⟩ := (hfurther v _).2 ⟨n + 1, hrest⟩
        refine ⟨u, List.mem_flatMap.2 ⟨v, hv, ?_⟩, hy⟩
        rwa [if_pos (show t.isBehind v = true from decide_eq_true hlt)]

theorem leadTo_repeated (t : Trail) :
    LeadTo (repeated greedy low high round t) fun y =>
      ∃ n, low ≤ n ∧ (∀ h ∈ high, n ≤ max low h) ∧ Rounds R n t.cursor y := by
  unfold repeated
  split
  · refine (leadTo_rounds hround hforward t).orStay.congr fun y => ⟨?_, ?_⟩
    · rintro (⟨n, hn⟩ | rfl)
      · exact ⟨n + 1, Nat.zero_le _, by simp, hn⟩
      · exact ⟨0, Nat.zero_le _, by simp, rfl⟩
    · rintro ⟨n | n, -, -, hn⟩
      · exact .inr hn
      · exact .inl ⟨n, hn⟩
  · rename_i low
    refine ((leadTo_times hround low t).flatMap (R := fun x y => ∃ n, Rounds R (n + 1) x y)
      fun u _ => leadTo_rounds hround hforward u).congr fun y => ⟨?_, ?_⟩
    · rintro ⟨z, hz, n, hn⟩
      exact ⟨low + (n + 1), by omega, by simp, rounds_add_iff.2 ⟨z, hz, hn⟩⟩
    · rintro ⟨n, hlow, -, hn⟩
      obtain ⟨k, rfl⟩ := Nat.exists_eq_add_of_le hlow
      rw [Nat.succ_add, ← Nat.add_succ] at hn
      obtain ⟨z, hz, hn⟩ := rounds_add_iff.1 hn
      exact ⟨z, hz, k, hn⟩
  · rename_i high
    refine ((leadTo_times hround _ t).flatMap (R := fun x y => ∃ n ≤ high - low, Rounds R n x y)
      fun u _ => leadTo_upTo hround _ u).congr fun y => ⟨?_, ?_⟩
    · rintro ⟨z, hz, n, hle, hn⟩
      refine ⟨low + n, by omega, fun h hh => ?_, rounds_add_iff.2 ⟨z, hz, hn⟩⟩
      rw [← Option.mem_some.1 hh]
      omega
    · rintro ⟨n, hlow, hhigh, hn⟩
      have hle := hhigh high rfl
      obtain ⟨k, rfl⟩ := Nat.exists_eq_add_of_le hlow
      obtain ⟨z, hz, hn⟩ := rounds_add_iff.1 hn
      exact ⟨z, hz, k, by omega, hn⟩

end Leads

end Trail

/-! ### Where the ways of a pattern lead -/

namespace Expression

open Trail

variable {a b : Expression} {t u : Trail} {text : List Char}

theorem Reads.eq_or_lt {x y : Cursor} (h : a.Reads x y) : x = y ∨ y.ahead.length < x.ahead.length := by
  obtain ⟨cs, hpass⟩ := h.exists_passes
  cases cs with
  | nil => exact .inl (passes_nil ▸ hpass)
  | cons c cs =>
    refine .inr ?_
    rw [hpass.1, List.length_append, List.length_cons]
    omega

/-- The ways lead to the cursors that the pattern reads up to. -/
theorem leadTo_trails (a : Expression) (t : Trail) : LeadTo (a.trails t) (a.Reads t.cursor) := by
  induction a generalizing t with
  | empty => exact leadTo_self
  | word cs =>
    intro y
    rw [Reads, ← behindWord?_eq_some_iff, trails]
    simp only [mem_moved]
    constructor
    · rintro ⟨u, ⟨hu, -⟩, rfl⟩
      exact hu
    · exact fun h => ⟨⟨y, t.taken⟩, ⟨h, rfl⟩, rfl⟩
  | one s =>
    intro y
    rw [Reads, ← behindOne?_eq_some_iff, trails]
    simp only [mem_moved]
    constructor
    · rintro ⟨u, ⟨hu, -⟩, rfl⟩
      exact hu
    · exact fun h => ⟨⟨y, t.taken⟩, ⟨h, rfl⟩, rfl⟩
  | «at» p =>
    intro y
    rw [trails, Reads]
    split
    · rename_i h
      simp [h]
    · rename_i h
      simp [h]
  | group number a ih =>
    intro y
    rw [trails, Reads, ← ih t y]
    constructor
    · rintro ⟨_, hu, rfl⟩
      obtain ⟨v, hv, rfl⟩ := List.mem_map.1 hu
      exact ⟨v, hv, rfl⟩
    · rintro ⟨v, hv, rfl⟩
      exact ⟨_, List.mem_map_of_mem hv, rfl⟩
  | repeated greedy low high a ih => exact leadTo_repeated ih (fun _ _ => Reads.eq_or_lt) t
  | seq a b iha ihb => exact (iha t).flatMap fun u _ => ihb u
  | alt a b iha ihb => exact (iha t).append (ihb t)

/-- There is a way to match just where there is a match. -/
theorem isSome_trail?_iff : (a.trail? text).isSome = true ↔ a.Occurs text := by
  rw [trail?, List.findSome?_isSome_iff]
  constructor
  · rintro ⟨x, hx, hsome⟩
    obtain ⟨u, hu⟩ := Option.isSome_iff_exists.1 hsome
    obtain ⟨front, rfl, hbefore⟩ := mem_ofText.1 hx
    have hreads := (a.leadTo_trails ⟨x, []⟩ u.cursor).1 ⟨u, List.mem_of_head? hu, rfl⟩
    rw [Option.or_none] at hbefore
    obtain ⟨x, ahead⟩ := x
    obtain rfl : x = front.getLast? := hbefore
    obtain ⟨found, htext, -, hmatch⟩ := reads_iff_matches.1 hreads
    exact ⟨front, found, u.cursor.ahead, by rw [List.append_assoc]; exact congrArg (front ++ ·) htext, hmatch⟩
  · rintro ⟨before, found, after, rfl, hmatch⟩
    obtain ⟨u, hu, -⟩ := (a.leadTo_trails ⟨⟨before.getLast?, found ++ after⟩, []⟩ _).2 hmatch
    refine ⟨⟨before.getLast?, found ++ after⟩, mem_ofText.2 ⟨before, ?_, ?_⟩, ?_⟩
    · exact List.append_assoc ..
    · exact Option.or_none.symm
    · exact List.isSome_head?.2 (List.ne_nil_of_mem hu)

/-! ### What groups take -/

/-- Whether there is no group in the pattern. -/
def isPlain : Expression → Bool
  | group _ _ => false
  | repeated _ _ _ a => a.isPlain
  | seq a b | alt a b => a.isPlain && b.isPlain
  | _ => true

theorem taken_of_isPlain (ha : a.isPlain = true) (hu : u ∈ a.trails t) : u.taken = t.taken := by
  induction a generalizing t u with
  | empty => rw [List.mem_singleton.1 hu]
  | word cs => exact (mem_moved.1 hu).2
  | one s => exact (mem_moved.1 hu).2
  | «at» p =>
    rw [trails] at hu
    split at hu
    · rw [List.mem_singleton.1 hu]
    · cases hu
  | group number a => cases ha
  | repeated greedy low high a ih =>
    exact kept_repeated (K := fun t u => u.taken = t.taken) (fun _ => rfl) (fun h h' => h'.trans h)
      (fun t u => ih ha) hu
  | seq a b iha ihb =>
    obtain ⟨ha, hb⟩ := Bool.and_eq_true_iff.1 ha
    obtain ⟨v, hv, hu⟩ := List.mem_flatMap.1 hu
    exact (ihb hb hu).trans (iha ha hv)
  | alt a b iha ihb =>
    obtain ⟨ha, hb⟩ := Bool.and_eq_true_iff.1 ha
    exact (List.mem_append.1 hu).elim (iha ha) (ihb hb)

/-- A way without groups is told by where it leads. -/
theorem mem_trails_iff_of_isPlain (ha : a.isPlain = true) :
    u ∈ a.trails t ↔ a.Reads t.cursor u.cursor ∧ u.taken = t.taken := by
  constructor
  · exact fun hu => ⟨(a.leadTo_trails t _).1 ⟨u, hu, rfl⟩, taken_of_isPlain ha hu⟩
  · rintro ⟨hreads, htaken⟩
    obtain ⟨v, hv, hcursor⟩ := (a.leadTo_trails t _).2 hreads
    obtain rfl : v = u := Trail.ext hcursor ((taken_of_isPlain ha hv).trans htaken.symm)
    exact hv

theorem passed_of_passes {cs : List Char} (h : Passes cs t.cursor u.cursor) : t.passed u = cs := by
  rw [passed, h.1, List.length_append, Nat.add_sub_cancel, List.take_left]

/-! ### Sequences -/

theorem reads_ofParts_nil {x y : Cursor} : (ofParts []).Reads x y ↔ x = y := Iff.rfl

theorem reads_ofParts_cons {rest : List Expression} {x z : Cursor} :
    (ofParts (a :: rest)).Reads x z ↔ ∃ y, a.Reads x y ∧ (ofParts rest).Reads y z := by
  cases rest with
  | nil => simp [ofParts, Reads]
  | cons b rest => rfl

theorem reads_ofParts_append {as bs : List Expression} {x z : Cursor} :
    (ofParts (as ++ bs)).Reads x z ↔ ∃ y, (ofParts as).Reads x y ∧ (ofParts bs).Reads y z := by
  induction as generalizing x with
  | nil => simp [reads_ofParts_nil]
  | cons a as ih =>
    simp only [List.cons_append, reads_ofParts_cons, ih]
    grind

theorem trails_ofParts_cons (a : Expression) (rest : List Expression) (t : Trail) :
    (ofParts (a :: rest)).trails t = (a.trails t).flatMap (ofParts rest).trails := by
  cases rest with
  | nil =>
    have hempty : (ofParts []).trails = fun u => [u] := rfl
    rw [hempty, List.flatMap_singleton']
    rfl
  | cons b rest => rfl

theorem trails_ofParts_append (as bs : List Expression) (t : Trail) :
    (ofParts (as ++ bs)).trails t = ((ofParts as).trails t).flatMap (ofParts bs).trails := by
  induction as generalizing t with
  | nil => exact (List.flatMap_singleton _ t).symm
  | cons a as ih =>
    rw [List.cons_append, trails_ofParts_cons, trails_ofParts_cons, List.flatMap_assoc, funext ih]

theorem isPlain_ofParts {as : List Expression} (h : ∀ a ∈ as, a.isPlain = true) : (ofParts as).isPlain = true :=
  ofParts_induction (P := fun a => a.isPlain = true) rfl (fun _ _ ha hb => Bool.and_eq_true_iff.2 ⟨ha, hb⟩) h

/-- The group has taken what stands between the parts before and behind it. -/
theorem mem_trails_group_iff {number : Nat} {before behind : List Expression}
    (hbefore : ∀ a ∈ before, a.isPlain = true) (hb : b.isPlain = true) (hbehind : ∀ a ∈ behind, a.isPlain = true) :
    u ∈ (ofParts (before ++ group number b :: behind)).trails t ↔
      ∃ y z found, (ofParts before).Reads t.cursor y ∧ b.Reads y z ∧ Passes found y z ∧
        (ofParts behind).Reads z u.cursor ∧ u.taken = (number, found) :: t.taken := by
  simp only [trails_ofParts_append, trails_ofParts_cons, trails, List.mem_flatMap, List.mem_map,
    mem_trails_iff_of_isPlain (isPlain_ofParts hbefore), mem_trails_iff_of_isPlain hb,
    mem_trails_iff_of_isPlain (isPlain_ofParts hbehind)]
  constructor
  · rintro ⟨v, ⟨hv, hvTaken⟩, _, ⟨w, ⟨hw, hwTaken⟩, rfl⟩, hu, huTaken⟩
    obtain ⟨found, hpass⟩ := hw.exists_passes
    refine ⟨v.cursor, w.cursor, found, hv, hw, hpass, hu, ?_⟩
    rw [huTaken, close, passed_of_passes hpass, hwTaken, hvTaken]
  · rintro ⟨y, z, found, hy, hz, hpass, hu, htaken⟩
    refine ⟨⟨y, t.taken⟩, ⟨hy, rfl⟩, _, ⟨⟨z, t.taken⟩, ⟨hz, rfl⟩, rfl⟩, hu, ?_⟩
    rw [htaken, close, passed_of_passes hpass]

/-! ### Captures -/

/-- A pattern that holds at the start of the text alone is looked for there alone. -/
theorem trail?_of_textStart (h : ∀ x y, a.Reads x y → x.before = none) :
    a.trail? text = (a.trails ⟨⟨none, text⟩, []⟩).head? := by
  have hlater : ∀ c rest, (ofText (some c) rest).findSome? (fun x => (a.trails ⟨x, []⟩).head?) = none := by
    intro c rest
    rw [List.findSome?_eq_none_iff]
    intro x hx
    obtain ⟨front, -, hbefore⟩ := mem_ofText.1 hx
    rw [List.head?_eq_none_iff, List.eq_nil_iff_forall_not_mem]
    intro u hu
    rw [h _ _ ((a.leadTo_trails ⟨x, []⟩ _).1 ⟨u, hu, rfl⟩)] at hbefore
    cases hlast : front.getLast? <;> simp [hlast] at hbefore
  cases text with
  | nil =>
    rw [trail?, ofText, List.findSome?_singleton]
  | cons c rest =>
    rw [trail?, ofText, List.findSome?_cons, hlater]
    cases (a.trails ⟨⟨none, c :: rest⟩, []⟩).head? <;> rfl

/-- Where every way to match has the same group, the group is that. -/
theorem capture?_eq_some_iff_of_unique {number : Nat} {found : List Char}
    (hstart : ∀ x y, a.Reads x y → x.before = none) {P : List Char → Prop}
    (hP : ∀ k, (∃ u ∈ a.trails ⟨⟨none, text⟩, []⟩, u.taken = [(number, k)]) ↔ P k)
    (hgroup : ∀ u ∈ a.trails ⟨⟨none, text⟩, []⟩, ∃ k, u.taken = [(number, k)])
    (hunique : ∀ k k', P k → P k' → k = k') : a.capture? number text = some found ↔ P found := by
  rw [capture?, trail?_of_textStart hstart]
  cases htrails : a.trails ⟨⟨none, text⟩, []⟩ with
  | nil =>
    rw [htrails] at hP
    simp [← hP]
  | cons u rest =>
    have hu : u ∈ a.trails ⟨⟨none, text⟩, []⟩ := htrails ▸ List.mem_cons_self
    obtain ⟨k, hk⟩ := hgroup u hu
    have hPk := (hP k).1 ⟨u, hu, hk⟩
    rw [List.head?_cons, Option.bind_some, hk]
    simp only [List.lookup_cons, beq_self_eq_true, Option.some.injEq]
    exact ⟨fun h => h ▸ hPk, hunique k found hPk⟩

end Expression

end BundleCheck.Pattern
