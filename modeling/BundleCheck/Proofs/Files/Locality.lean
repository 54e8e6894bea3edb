import BundleCheck.Proofs.Files.Place

/-!
# Steps that keep to their places

What a step of a run does to files is a function of what there is at each place, and it can fail. A step
that writes to places of its own, and looks at few others, does not notice what other steps do elsewhere.
When each step of a sequence has its own places and none looks at those of another, each does what it would
have done at the beginning, and the sequence comes to its end if each of them could.
-/

namespace BundleCheck

/-- What there is at each place. -/
abbrev View : Type := Location → Option Node

/-- The step changes only places of its own, and what it does there depends on them and on those that it
looks at. -/
structure IsLocal (f : View → Option View) (own seen : Location → Prop) : Prop where
  frame : ∀ {v v' : View}, f v = some v' → ∀ l, ¬ own l → v' l = v l
  agree : ∀ {v v' u : View}, f v = some v' → (∀ l, own l ∨ seen l → u l = v l) →
    ∃ u', f u = some u' ∧ ∀ l, own l → u' l = v' l

section Sequence

variable {α : Type} {f : α → View → Option View} {own seen : α → Location → Prop}

def inTurn (f : α → View → Option View) (steps : List α) (v : View) : Option View :=
  steps.foldlM (fun v a => f a v) v

theorem inTurn_cons_eq_some_iff {a : α} {rest : List α} {v v' : View} :
    inTurn f (a :: rest) v = some v' ↔ ∃ u, f a v = some u ∧ inTurn f rest u = some v' := by
  rw [inTurn, List.foldlM_cons]
  exact Option.bind_eq_some_iff

/-- The steps keep out of each other's way. -/
structure Apart (f : α → View → Option View) (own seen : α → Location → Prop) (steps : List α) : Prop where
  isLocal : ∀ a ∈ steps, IsLocal (f a) (own a) (seen a)
  own_disjoint : steps.Pairwise fun a b => ∀ l, own a l → ¬ own b l
  not_seen : ∀ a ∈ steps, ∀ b ∈ steps, ∀ l, own a l → ¬ seen b l

theorem Apart.tail {a : α} {rest : List α} (h : Apart f own seen (a :: rest)) : Apart f own seen rest where
  isLocal b hb := h.isLocal b (List.mem_cons_of_mem a hb)
  own_disjoint := (List.pairwise_cons.1 h.own_disjoint).2
  not_seen b hb c hc := h.not_seen b (List.mem_cons_of_mem a hb) c (List.mem_cons_of_mem a hc)

/-- The first step changes nothing for the others. -/
theorem Apart.unchanged {a b : α} {rest : List α} (h : Apart f own seen (a :: rest)) (hb : b ∈ rest)
    {v u : View} (hu : f a v = some u) : ∀ l, own b l ∨ seen b l → u l = v l := by
  intro l hl
  refine (h.isLocal a List.mem_cons_self).frame hu l fun ha => ?_
  rcases hl with hl | hl
  · exact (List.pairwise_cons.1 h.own_disjoint).1 b hb l ha hl
  · exact h.not_seen a List.mem_cons_self b (List.mem_cons_of_mem a hb) l ha hl

theorem Apart.frame {steps : List α} (h : Apart f own seen steps) {v v' : View}
    (hv : inTurn f steps v = some v') : ∀ l, (∀ a ∈ steps, ¬ own a l) → v' l = v l := by
  induction steps generalizing v with
  | nil =>
    intro l _
    rw [Option.some.inj hv]
  | cons a rest ih =>
    intro l hl
    obtain ⟨u, hu, hrest⟩ := inTurn_cons_eq_some_iff.1 hv
    rw [ih h.tail hrest l fun b hb => hl b (List.mem_cons_of_mem a hb)]
    exact (h.isLocal a List.mem_cons_self).frame hu l (hl a List.mem_cons_self)

/-- Each step leaves in its places what it would have left there at the beginning. -/
theorem Apart.each {steps : List α} (h : Apart f own seen steps) {v v' : View}
    (hv : inTurn f steps v = some v') :
    ∀ a ∈ steps, ∃ u, f a v = some u ∧ ∀ l, own a l → v' l = u l := by
  induction steps generalizing v with
  | nil => simp
  | cons a rest ih =>
    obtain ⟨u, hu, hrest⟩ := inTurn_cons_eq_some_iff.1 hv
    intro b hb
    rcases List.mem_cons.1 hb with rfl | hb
    · refine ⟨u, hu, fun l hl => h.tail.frame hrest l fun c hc => ?_⟩
      exact (List.pairwise_cons.1 h.own_disjoint).1 c hc l hl
    · obtain ⟨x, hx, hxown⟩ := ih h.tail hrest b hb
      obtain ⟨y, hy, hyown⟩ := (h.tail.isLocal b hb).agree hx
        fun l hl => (h.unchanged hb hu l hl).symm
      exact ⟨y, hy, fun l hl => (hxown l hl).trans (hyown l hl).symm⟩

theorem Apart.exists_inTurn {steps : List α} (h : Apart f own seen steps) {v : View}
    (hv : ∀ a ∈ steps, ∃ u, f a v = some u) : ∃ v', inTurn f steps v = some v' := by
  induction steps generalizing v with
  | nil => exact ⟨v, rfl⟩
  | cons a rest ih =>
    obtain ⟨u, hu⟩ := hv a List.mem_cons_self
    have hrest : ∀ b ∈ rest, ∃ x, f b u = some x := by
      intro b hb
      obtain ⟨x, hx⟩ := hv b (List.mem_cons_of_mem a hb)
      obtain ⟨y, hy, -⟩ := (h.tail.isLocal b hb).agree hx (h.unchanged hb hu)
      exact ⟨y, hy⟩
    obtain ⟨v', hv'⟩ := ih h.tail hrest
    exact ⟨v', inTurn_cons_eq_some_iff.2 ⟨u, hu, hv'⟩⟩

/-- Steps that keep out of each other's way are together a step of the same kind. -/
theorem Apart.isLocal_inTurn {steps : List α} (h : Apart f own seen steps) :
    IsLocal (inTurn f steps) (fun l => ∃ a ∈ steps, own a l) (fun l => ∃ a ∈ steps, seen a l) where
  frame hv l hl := h.frame hv l fun a ha hown => hl ⟨a, ha, hown⟩
  agree {v v' u} hv hu := by
    have heach : ∀ a ∈ steps, ∃ y, f a u = some y ∧ ∀ l, own a l → y l = v' l := by
      intro a ha
      obtain ⟨x, hx, hxown⟩ := h.each hv a ha
      obtain ⟨y, hy, hyown⟩ := (h.isLocal a ha).agree hx fun l hl =>
        hu l (hl.imp (fun hl => ⟨a, ha, hl⟩) fun hl => ⟨a, ha, hl⟩)
      exact ⟨y, hy, fun l hl => (hyown l hl).trans (hxown l hl).symm⟩
    obtain ⟨u', hu'⟩ := h.exists_inTurn fun a ha => (heach a ha).imp fun _ hy => hy.1
    refine ⟨u', hu', ?_⟩
    rintro l ⟨a, ha, hl⟩
    obtain ⟨x, hx, hxown⟩ := h.each hu' a ha
    obtain ⟨y, hy, hyown⟩ := heach a ha
    rw [hxown l hl, ← hyown l hl, Option.some.inj (hx.symm.trans hy)]

end Sequence

end BundleCheck
