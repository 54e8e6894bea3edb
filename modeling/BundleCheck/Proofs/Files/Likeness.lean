import BundleCheck.Proofs.Files.Place

/-!
# Trees that differ in what files hold

Two trees can have files and directories at the same places and differ in what some of the files hold. Then
every path leads to the same place in both, or is the same error, and reading is the same everywhere but at
the files that differ.
-/

namespace BundleCheck

def Node.isFile : Node → Bool
  | .file _ => true
  | .directory => false

namespace Tree

/-- The trees differ only in what the files hold at some places. -/
structure Alike (differ : Location → Prop) (t t' : Tree) : Prop where
  kind : ∀ l, (t'.node? l).map Node.isFile = (t.node? l).map Node.isFile
  node : ∀ l, ¬ differ l → t'.node? l = t.node? l

/-- Where a path leads, without what is there. -/
def Target.outline : Target → Location × Option Bool
  | .present l n => (l, some n.isFile)
  | .vacant l => (l, none)

theorem resolve_eq_of_file {t : Tree} {current l : Location} {path : String} {c : FileContent}
    (hspot : t.spot current path = .file l) (hnode : t.node? l = some (.file c)) :
    t.resolve current path = .ok (.present l (.file c)) := by
  rcases t.resolve_cases current path with ⟨-, hother⟩ | ⟨-, hother⟩ | ⟨k, c', hk, hother, hnode'⟩ |
    ⟨k, -, hnone, hother | hother⟩
  · cases hspot.symm.trans hother
  · cases hspot.symm.trans hother
  · obtain rfl := Spot.file.inj (hspot.symm.trans hother)
    cases hnode.symm.trans hnode'
    exact hk
  · obtain rfl := Spot.file.inj (hspot.symm.trans hother)
    cases hnode.symm.trans hnone
  · cases hspot.symm.trans hother

namespace Alike

variable {differ differ' : Location → Prop} {t t' : Tree} {current l : Location} {path : String}

theorem refl (t : Tree) : Alike (fun _ => False) t t := ⟨fun _ => rfl, fun _ _ => rfl⟩

theorem mono (h : Alike differ t t') (himp : ∀ l, differ l → differ' l) : Alike differ' t t' where
  kind := h.kind
  node l hl := h.node l fun hdiffer => hl (himp l hdiffer)

theorem node_ne_directory (h : Alike differ t t') (hl : t.node? l ≠ some .directory) :
    t'.node? l ≠ some .directory := by
  intro hdirectory
  have hkind := h.kind l
  rw [hdirectory] at hkind
  rcases hnode : t.node? l with - | ⟨c | -⟩
  · simp [hnode] at hkind
  · simp [hnode, Node.isFile] at hkind
  · exact hl hnode

/-! ### Paths -/

theorem follow (h : Alike differ t t') {k : Location} {n n' : Node} (hn : n'.isFile = n.isFile)
    (pieces : List String) :
    (t'.follow k n' pieces).map Target.outline = (t.follow k n pieces).map Target.outline := by
  induction pieces generalizing k n n' with
  | nil => rw [Tree.follow, Tree.follow, Except.map, Except.map, Target.outline, Target.outline, hn]
  | cons piece rest ih =>
    rcases n with c | - <;> rcases n' with c' | -
    · rw [follow_file_cons, follow_file_cons]
    · cases hn
    · cases hn
    -- Both are directories, and what the piece leads to is of one kind in both trees.
    · rw [Tree.follow, Tree.follow]
      split
      · rfl
      · split
        · exact ih rfl
        · split
          · exact ih rfl
          · split
            · rfl
            · have hkind := h.kind (k ++ [piece])
              cases hnode : t.node? (k ++ [piece]) with
              | none =>
                rw [hnode, Option.map_none, Option.map_eq_none_iff] at hkind
                rw [hkind]
              | some next =>
                rw [hnode, Option.map_some, Option.map_eq_some_iff] at hkind
                obtain ⟨next', hnode', hnext⟩ := hkind
                rw [hnode']
                exact ih hnext

theorem resolve (h : Alike differ t t') (current : Location) (path : String) :
    (t'.resolve current path).map Target.outline = (t.resolve current path).map Target.outline := by
  rw [Tree.resolve, Tree.resolve]
  cases piecesOf path with
  | error e => rfl
  | ok pieces => exact h.follow rfl pieces

theorem spotOf_congr {r r' : Except FileError Target} (h : r'.map Target.outline = r.map Target.outline)
    (slash : Bool) : spotOf slash r' = spotOf slash r := by
  rcases r with e | ⟨l, (c | -)⟩ | l <;> rcases r' with e' | ⟨l', (c' | -)⟩ | l' <;>
    simp_all [Except.map, Target.outline, Node.isFile, spotOf]

theorem spot (h : Alike differ t t') : t'.spot current = t.spot current := by
  funext path
  rw [Tree.spot, Tree.spot]
  cases piecesOf path with
  | error e => rfl
  | ok pieces => exact spotOf_congr (h.follow rfl pieces) _

theorem isPresent (h : Alike differ t t') : t'.isPresent current path = t.isPresent current path := by
  rw [isPresent_eq, isPresent_eq, h.spot]
  split
  · rename_i l hl
    have hkind := congrArg Option.isSome (h.kind l)
    rwa [Option.isSome_map, Option.isSome_map] at hkind
  · rfl
  · rfl

/-- Reading is the same but at the files that differ. -/
theorem read (h : Alike differ t t') (hpath : ∀ l, t.spot current path = .file l → ¬ differ l) :
    t'.read current path = t.read current path := by
  have hresolve := h.resolve current path
  cases hread : t.read current path with
  | ok text =>
    obtain ⟨l, hl, hnode⟩ := read_eq_ok_iff.1 hread
    refine read_eq_ok_iff.2 ⟨l, (congrFun h.spot path).trans hl, ?_⟩
    exact (h.node l (hpath l hl)).trans hnode
  | error e =>
    -- A place that cannot be read is told by its kind alone, except for a file whose bytes are no text.
    rw [Tree.read] at hread ⊢
    rcases t.resolve_cases current path with ⟨⟨e', he⟩, -⟩ | ⟨⟨k, hk⟩, -⟩ | ⟨k, c, hk, hspot, hnode⟩ | ⟨k, hk, -, -⟩
    · rw [he] at hread hresolve
      rcases hother : t'.resolve current path with e'' | ⟨l', (c' | -)⟩ | l' <;>
        simp_all [Except.map, Target.outline]
    · rw [hk] at hread hresolve
      rcases hother : t'.resolve current path with e'' | ⟨l', (c' | -)⟩ | l' <;>
        simp_all [Except.map, Target.outline, Node.isFile]
    · have hnode' : t'.node? k = some (.file c) := (h.node k (hpath k hspot)).trans hnode
      have hspot' : t'.spot current path = .file k := (congrFun h.spot path).trans hspot
      rw [resolve_eq_of_file hspot' hnode']
      rw [hk] at hread
      exact hread
    · rw [hk] at hread hresolve
      rcases hother : t'.resolve current path with e'' | ⟨l', (c' | -)⟩ | l' <;>
        simp_all [Except.map, Target.outline]

/-- What cannot be written in the one cannot be written in the other. -/
theorem write_error (h : Alike differ t t') {text : String} {e : FileError}
    (hwrite : t.write current path text = .error e) (text' : String) : t'.write current path text' = .error e := by
  rw [Tree.write] at hwrite ⊢
  cases hpieces : piecesOf path with
  | error e' => simpa [hpieces, bind, Except.bind] using hwrite
  | ok pieces =>
    have hfollow :
        (t'.follow (start current pieces) .directory (leading pieces)).map Target.outline =
          (t.follow (start current pieces) .directory (leading pieces)).map Target.outline :=
      h.follow rfl (leading pieces)
    simp only [hpieces, bind, Except.bind] at hwrite ⊢
    cases hslash : endsWithSlash pieces <;>
      rcases hone : t.follow (start current pieces) .directory (leading pieces) with e' | ⟨l, (c | -)⟩ | l <;>
        rcases hother : t'.follow (start current pieces) .directory (leading pieces) with
          e'' | ⟨l', (c' | -)⟩ | l' <;>
            simp_all [Except.map, Target.outline, Node.isFile]

/-! ### Files that are written -/

theorem put_both (h : Alike differ t t') (hl : t.node? l ≠ some .directory) (n : Node) :
    Alike differ (t.put l n) (t'.put l n) where
  kind k := by
    rw [node?_put t (ne_nil_of_node? hl), node?_put t' (ne_nil_of_node? (h.node_ne_directory hl)),
      Function.update_apply, Function.update_apply]
    split
    · rfl
    · exact h.kind k
  node k hk := by
    rw [node?_put t (ne_nil_of_node? hl), node?_put t' (ne_nil_of_node? (h.node_ne_directory hl)),
      Function.update_apply, Function.update_apply]
    split
    · rfl
    · exact h.node k hk

theorem put_other (h : Alike differ t t') {c : FileContent} (hl : t.node? l = some (.file c)) (c' : FileContent) :
    Alike (fun k => differ k ∨ k = l) t (t'.put l (.file c')) where
  kind k := by
    rw [node?_put t' (ne_nil_of_node? (h.node_ne_directory (by simp [hl]))), Function.update_apply]
    split
    · rename_i hk
      rw [hk, hl]
      rfl
    · exact h.kind k
  node k hk := by
    rw [not_or] at hk
    rw [node?_put t' (ne_nil_of_node? (h.node_ne_directory (by simp [hl]))), Function.update_of_ne hk.2]
    exact h.node k hk.1

end Alike

end Tree

end BundleCheck
