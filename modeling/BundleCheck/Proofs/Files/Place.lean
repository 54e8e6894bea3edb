import BundleCheck.Files.Tree
import Mathlib.Logic.Function.Basic

/-!
# Where paths lead

A path leads to a file or to a free place for one, to a directory, or nowhere. Reading and writing depend
on that and on the node at the place. Writing a file changes the node at one place, and it changes nothing
about where paths lead: a file in a free place turns no path into one of another kind, since a path that
goes on behind it ended in an error before and does so still.
-/

namespace BundleCheck.Tree

inductive Spot where
  /-- A file, or a free place for one. -/
  | file (l : Location)
  | directory
  | nowhere
deriving DecidableEq, Repr

/-- The spot that following leads to, given whether the path ends with a slash. -/
def spotOf (slash : Bool) : Except FileError Target → Spot
  | .ok (.present l (.file _)) => .file l
  | .ok (.present _ .directory) => .directory
  | .ok (.vacant l) => if slash then .nowhere else .file l
  | .error _ => .nowhere

def spot (t : Tree) (current : Location) (path : String) : Spot :=
  match piecesOf path with
  | .error _ => .nowhere
  | .ok pieces => spotOf (endsWithSlash pieces) (t.follow (start current pieces) .directory pieces)

variable {t : Tree} {current l : Location} {path : String}

/-! ### Nodes -/

theorem ne_nil_of_node? (h : t.node? l ≠ some .directory) : l ≠ [] := by
  rintro rfl
  exact h rfl

theorem lookup_map_replace (nodes : List (Location × Node)) (l k : Location) (n : Node) :
    (nodes.map fun (m, old) => (m, if m = l then n else old)).lookup k =
      if k = l ∧ nodes.any (·.1 = l) then some n else nodes.lookup k := by
  induction nodes with
  | nil => simp
  | cons node rest ih =>
    obtain ⟨m, old⟩ := node
    rw [List.map_cons, List.lookup_cons, List.lookup_cons, ih, List.any_cons]
    by_cases hk : k = m
    · subst hk
      by_cases hl : k = l
      · simp [hl]
      · simp only [beq_self_eq_true, hl, false_and, if_false]
    · simp only [beq_eq_false_iff_ne.2 hk]
      by_cases hm : m = l
      · have hkl : k ≠ l := fun h => hk (h.trans hm.symm)
        simp only [hkl, false_and, if_false]
      · simp only [hm, decide_false, Bool.false_or]

/-- A node that is put replaces what was at its place and nothing else. -/
theorem node?_put (t : Tree) (hl : l ≠ []) (n : Node) :
    (t.put l n).node? = Function.update t.node? l (some n) := by
  funext k
  rw [Function.update_apply]
  by_cases hk : k = []
  · rw [if_neg fun h => hl (h.symm.trans hk), node?, node?, if_pos hk, if_pos hk]
  · rw [node?, node?, if_neg hk, if_neg hk, put]
    split
    · rename_i hany
      rw [lookup_map_replace]
      by_cases hkl : k = l
      · rw [if_pos ⟨hkl, hany⟩, if_pos hkl]
      · rw [if_neg fun h => hkl h.1, if_neg hkl]
    · rename_i hnone
      rw [List.lookup_append]
      by_cases hkl : k = l
      · have hfree : t.nodes.lookup l = none := by
          rw [List.lookup_eq_none_iff]
          intro node hnode
          rw [bne_iff_ne]
          intro heq
          exact hnone (List.any_eq_true.2 ⟨node, hnode, by simpa using heq.symm⟩)
        rw [hkl, hfree, if_pos rfl]
        simp
      · rw [if_neg hkl]
        have hlast : [(l, n)].lookup k = none := by
          rw [List.lookup_cons, beq_eq_false_iff_ne.2 hkl]
          rfl
        rw [hlast, Option.or_none]

/-! ### Following -/

theorem node?_of_follow_eq_present {k : Location} {n : Node} {pieces : List String} {content : FileContent}
    (hn : ∀ c, n = .file c → t.node? k = some n)
    (h : t.follow k n pieces = .ok (.present l (.file content))) : t.node? l = some (.file content) := by
  induction pieces generalizing k n with
  | nil =>
    rw [follow] at h
    obtain ⟨rfl, rfl⟩ := Target.present.inj (Except.ok.inj h)
    exact hn content rfl
  | cons piece rest ih =>
    rw [follow] at h
    split at h
    · cases h
    · split at h
      · exact ih hn h
      · split at h
        · exact ih (fun c hc => by cases hc) h
        · split at h
          · cases h
          · split at h
            · rename_i next hnext
              exact ih (fun _ _ => hnext) h
            · split at h <;> cases h

theorem node?_of_follow_eq_vacant {k : Location} {n : Node} {pieces : List String}
    (h : t.follow k n pieces = .ok (.vacant l)) : t.node? l = none := by
  induction pieces generalizing k n with
  | nil =>
    rw [follow] at h
    cases h
  | cons piece rest ih =>
    rw [follow] at h
    split at h
    · cases h
    · split at h
      · exact ih h
      · split at h
        · exact ih h
        · split at h
          · cases h
          · split at h
            · exact ih h
            · rename_i hnext
              split at h
              · rw [← Target.vacant.inj (Except.ok.inj h)]
                exact hnext
              · cases h

theorem endsWithSlash_cons {piece : String} {rest : List String} (h : rest ≠ []) :
    endsWithSlash (piece :: rest) = endsWithSlash rest := by
  cases rest with
  | nil => exact absurd rfl h
  | cons next rest => rw [endsWithSlash, endsWithSlash, List.getLast?_cons_cons]

theorem eq_directory_of_endsWithSlash {k : Location} {n m : Node} {pieces : List String}
    (hslash : endsWithSlash pieces = true) (h : t.follow k n pieces = .ok (.present l m)) :
    m = .directory := by
  induction pieces generalizing k n with
  | nil => cases hslash
  | cons piece rest ih =>
    rw [follow] at h
    split at h
    · cases h
    · rename_i hn
      by_cases hrest : rest = []
      · have hpiece : piece = "" := by simpa [hrest, endsWithSlash] using hslash
        rw [if_pos (.inl hpiece), hrest, follow] at h
        rw [← (Target.present.inj (Except.ok.inj h)).2]
        exact of_not_not hn
      · rw [endsWithSlash_cons hrest] at hslash
        split at h
        · exact ih hslash h
        · split at h
          · exact ih hslash h
          · split at h
            · cases h
            · split at h
              · exact ih hslash h
              · split at h <;> cases h

theorem follow_file_cons (t : Tree) (k : Location) (content : FileContent) (piece : String)
    (rest : List String) : t.follow k (.file content) (piece :: rest) = .error .notDirectory := by
  rw [follow, if_pos (by simp)]

/-- In a free place, a path that goes on does so behind slashes only or not at all. -/
theorem spotOf_vacant {slash : Bool} {rest : List String} (hslash : rest ≠ [] → slash = endsWithSlash rest)
    (hnone : rest = [] → slash = false) (l : Location) :
    spotOf slash (if rest.all (· = "") then .ok (.vacant l) else .error .notFound) =
      if rest = [] then .file l else .nowhere := by
  cases rest with
  | nil => simp [spotOf, hnone rfl]
  | cons next rest =>
    rw [if_neg (List.cons_ne_nil next rest)]
    split
    · rename_i hall
      have hlast := List.all_eq_true.1 hall _ (List.getLast_mem (List.cons_ne_nil next rest))
      have hend : slash = true := by
        rw [hslash (List.cons_ne_nil next rest), endsWithSlash,
          List.getLast?_eq_some_getLast (List.cons_ne_nil next rest)]
        simpa using hlast
      rw [hend]
      rfl
    · rfl

theorem spotOf_follow_put {content : FileContent} (hl : t.node? l ≠ some .directory) {k : Location}
    {n n' : Node} (hn : n = n' ∨ ∃ c c', n = .file c ∧ n' = .file c') {slash : Bool} {pieces : List String}
    (hslash : pieces ≠ [] → slash = endsWithSlash pieces) :
    spotOf slash ((t.put l (.file content)).follow k n' pieces) = spotOf slash (t.follow k n pieces) := by
  induction pieces generalizing k n n' with
  | nil =>
    rw [follow, follow]
    rcases hn with rfl | ⟨c, c', rfl, rfl⟩ <;> rfl
  | cons piece rest ih =>
    have hrest : rest ≠ [] → slash = endsWithSlash rest := fun h => by
      rw [hslash (List.cons_ne_nil piece rest), endsWithSlash_cons h]
    rcases hn with rfl | ⟨c, c', rfl, rfl⟩
    · rw [follow, follow]
      split
      · rfl
      · split
        · exact ih (.inl rfl) hrest
        · rename_i hidle
          split
          · exact ih (.inl rfl) hrest
          · split
            · rfl
            · have hnone : rest = [] → slash = false := by
                rintro rfl
                rw [hslash (List.cons_ne_nil piece [])]
                simpa [endsWithSlash] using fun h => hidle (.inl h)
              rw [node?_put t (ne_nil_of_node? hl), Function.update_apply]
              by_cases hplace : k ++ [piece] = l
              · rw [if_pos hplace]
                cases hnode : t.node? (k ++ [piece]) with
                | some next =>
                  cases next with
                  | file c => exact ih (.inr ⟨c, content, rfl, rfl⟩) hrest
                  | directory => exact absurd (hplace ▸ hnode) hl
                | none =>
                  -- The file is new here: a slash behind it led nowhere and is an error now.
                  simp only [spotOf_vacant hrest hnone]
                  cases rest with
                  | nil => rfl
                  | cons next rest => rw [follow_file_cons, if_neg (List.cons_ne_nil next rest), spotOf]
              · rw [if_neg hplace]
                cases hnode : t.node? (k ++ [piece]) with
                | some next => exact ih (.inl rfl) hrest
                | none => rfl
    · rw [follow_file_cons, follow_file_cons]

/-! ### Spots -/

/-- No path leads elsewhere when a file is written. -/
theorem spot_put {content : FileContent} (hl : t.node? l ≠ some .directory) :
    (t.put l (.file content)).spot current path = t.spot current path := by
  rw [spot, spot]
  cases piecesOf path with
  | error e => rfl
  | ok pieces => exact spotOf_follow_put hl (.inl rfl) fun _ => rfl

/-- Resolving a path tells its spot, and what there is at the spot. -/
theorem resolve_cases (t : Tree) (current : Location) (path : String) :
    ((∃ e, t.resolve current path = .error e) ∧ t.spot current path = .nowhere) ∨
    ((∃ l, t.resolve current path = .ok (.present l .directory)) ∧ t.spot current path = .directory) ∨
    (∃ l c, t.resolve current path = .ok (.present l (.file c)) ∧ t.spot current path = .file l ∧
      t.node? l = some (.file c)) ∨
    ∃ l, t.resolve current path = .ok (.vacant l) ∧ t.node? l = none ∧
      (t.spot current path = .file l ∨ t.spot current path = .nowhere) := by
  cases hpieces : piecesOf path with
  | error e => exact .inl ⟨⟨e, by rw [resolve, hpieces]; rfl⟩, by rw [spot, hpieces]⟩
  | ok pieces =>
    have hresolve : t.resolve current path = t.follow (start current pieces) .directory pieces := by
      rw [resolve, hpieces]
      rfl
    have hspot : t.spot current path =
        spotOf (endsWithSlash pieces) (t.follow (start current pieces) .directory pieces) := by
      rw [spot, hpieces]
    rw [hresolve, hspot]
    cases hfollow : t.follow (start current pieces) .directory pieces with
    | error e => exact .inl ⟨⟨e, rfl⟩, rfl⟩
    | ok target =>
      cases target with
      | present l n =>
        cases n with
        | directory => exact .inr (.inl ⟨⟨l, rfl⟩, rfl⟩)
        | file c =>
          have hnode := node?_of_follow_eq_present (fun c hc => by cases hc) hfollow
          exact .inr (.inr (.inl ⟨l, c, rfl, rfl, hnode⟩))
      | vacant l =>
        refine .inr (.inr (.inr ⟨l, rfl, node?_of_follow_eq_vacant hfollow, ?_⟩))
        cases hslash : endsWithSlash pieces with
        | true => exact .inr (by simp [spotOf])
        | false => exact .inl (by simp [spotOf])

theorem node?_of_spot_eq_file (h : t.spot current path = .file l) : t.node? l ≠ some .directory := by
  rcases resolve_cases t current path with ⟨-, hspot⟩ | ⟨-, hspot⟩ | ⟨k, c, -, hspot, hnode⟩ |
    ⟨k, -, hnode, hspot | hspot⟩
  · simp [hspot] at h
  · simp [hspot] at h
  · obtain rfl := Spot.file.inj (hspot.symm.trans h)
    simp [hnode]
  · obtain rfl := Spot.file.inj (hspot.symm.trans h)
    simp [hnode]
  · simp [hspot] at h

theorem isPresent_eq (t : Tree) (current : Location) (path : String) :
    t.isPresent current path =
      match t.spot current path with
      | .file l => (t.node? l).isSome
      | .directory => true
      | .nowhere => false := by
  rw [isPresent]
  rcases resolve_cases t current path with ⟨⟨e, he⟩, hspot⟩ | ⟨⟨k, hk⟩, hspot⟩ | ⟨k, c, hk, hspot, hnode⟩ |
    ⟨k, hk, hnode, hspot | hspot⟩
  · simp only [he, hspot]
  · simp only [hk, hspot]
  · simp only [hk, hspot, hnode, Option.isSome_some]
  · simp only [hk, hspot, hnode, Option.isSome_none]
  · simp only [hk, hspot]

theorem read_eq_ok_iff {text : String} :
    t.read current path = .ok text ↔
      ∃ l, t.spot current path = .file l ∧ t.node? l = some (.file (.text text)) := by
  rw [read]
  rcases resolve_cases t current path with ⟨⟨e, he⟩, hspot⟩ | ⟨⟨k, hk⟩, hspot⟩ | ⟨k, c, hk, hspot, hnode⟩ |
    ⟨k, hk, hnode, hspot | hspot⟩
  · simp [he, hspot]
  · simp [hk, hspot]
  · cases c <;> simp [hk, hspot, hnode]
  · simp [hk, hspot, hnode]
  · simp [hk, hspot]

theorem isPresent_of_read {text : String} (h : t.read current path = .ok text) :
    t.isPresent current path = true := by
  obtain ⟨l, hl, hnode⟩ := read_eq_ok_iff.1 h
  rw [isPresent_eq, hl]
  simp only [hnode, Option.isSome_some]

/-- What can be written to is a file or a free place for one. -/
theorem write_eq_ok_iff {text : String} {t' : Tree} :
    t.write current path text = .ok t' ↔
      ∃ l, t.spot current path = .file l ∧ t' = t.put l (.file (.text text)) := by
  rw [write, spot]
  cases hpieces : piecesOf path with
  | error e => simp [bind, Except.bind]
  | ok pieces =>
    simp only [bind, Except.bind]
    cases hslash : endsWithSlash pieces with
    | true =>
      have hspot : ∀ k, spotOf true (t.follow (start current pieces) .directory pieces) ≠ .file k := by
        intro k hk
        cases hfollow : t.follow (start current pieces) .directory pieces with
        | error e => simp [hfollow, spotOf] at hk
        | ok target =>
          cases target with
          | present m n => simp [hfollow, eq_directory_of_endsWithSlash hslash hfollow, spotOf] at hk
          | vacant m => simp [hfollow, spotOf] at hk
      simp only [hspot, false_and, exists_false, iff_false]
      intro hwrite
      split at hwrite
      · cases hwrite
      · split at hwrite <;> cases hwrite
    | false =>
      have hleading : leading pieces = pieces := by
        rw [leading, hslash]
        rfl
      rw [hleading]
      cases hfollow : t.follow (start current pieces) .directory pieces with
      | error e => simp [spotOf]
      | ok target =>
        cases target with
        | present k n => cases n <;> simp [spotOf, eq_comm]
        | vacant k => simp [spotOf, eq_comm]

end BundleCheck.Tree
