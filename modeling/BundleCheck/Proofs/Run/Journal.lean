import BundleCheck.Proofs.Files.Place
import BundleCheck.Proofs.Run.Completion
import BundleCheck.Run.Program

/-!
# Journals

The world that a run leaves does not show how it came about: a file can have been written twice. A journal
is a third host. It answers like a directory tree and keeps what a run did, in order. That a run does
certain deeds and ends with a certain result is a statement about all hosts that record deeds in some way,
so the world after a run and the journal of the run come from one proof.
-/

namespace BundleCheck

/-- Something that a run does: it has a text written, which can fail, or it says something. -/
inductive Deed where
  | wrote (path text : String)
  | said (u : Utterance)
deriving DecidableEq

/-- The bundle that is reported. -/
def Utterance.document? (u : Utterance) : Option Bundle :=
  match u.event with
  | .report b => some b
  | _ => none

namespace Deed

/-- The tree after the deed. -/
def leave (directory : Location) (tree : Tree) : Deed → Tree
  | wrote path text =>
    match tree.write directory path text with
    | .ok tree => tree
    | .error _ => tree
  | said _ => tree

def utterance? : Deed → Option Utterance
  | wrote _ _ => none
  | said u => some u

def document? (d : Deed) : Option Bundle := d.utterance?.bind Utterance.document?

end Deed

def treeAfter (directory : Location) (tree : Tree) (deeds : List Deed) : Tree :=
  deeds.foldl (Deed.leave directory) tree

def utterances (deeds : List Deed) : List Utterance := deeds.filterMap Deed.utterance?

def documents (deeds : List Deed) : List Bundle := deeds.filterMap Deed.document?

/-! ### What deeds leave -/

section Deeds

variable {directory l : Location} {tree tree' : Tree}

/-- No path leads elsewhere after a deed. -/
theorem Deed.spot_leave (d : Deed) : (d.leave directory tree).spot directory = tree.spot directory := by
  cases d with
  | said u => rfl
  | wrote path text =>
    rw [leave]
    split
    · rename_i tree' hwrite
      obtain ⟨k, hk, rfl⟩ := Tree.write_eq_ok_iff.1 hwrite
      exact funext fun _ => Tree.spot_put (Tree.node?_of_spot_eq_file hk)
    · rfl

theorem Deed.node?_leave {d : Deed} (h : ∀ path text, d = .wrote path text → tree.spot directory path ≠ .file l) :
    (d.leave directory tree).node? l = tree.node? l := by
  cases d with
  | said u => rfl
  | wrote path text =>
    rw [leave]
    split
    · rename_i tree' hwrite
      obtain ⟨k, hk, rfl⟩ := Tree.write_eq_ok_iff.1 hwrite
      have hne : l ≠ k := by
        rintro rfl
        exact h path text rfl hk
      rw [Tree.node?_put tree (Tree.ne_nil_of_node? (Tree.node?_of_spot_eq_file hk)), Function.update_of_ne hne]
    · rfl

@[simp] theorem treeAfter_append (deeds others : List Deed) :
    treeAfter directory tree (deeds ++ others) = treeAfter directory (treeAfter directory tree deeds) others :=
  List.foldl_append

theorem treeAfter_wrote_ok {path text : String} (h : tree.write directory path text = .ok tree')
    (deeds : List Deed) : treeAfter directory tree (.wrote path text :: deeds) = treeAfter directory tree' deeds := by
  rw [treeAfter, List.foldl_cons, Deed.leave, h]
  rfl

theorem treeAfter_wrote_error {path text : String} {e : FileError}
    (h : tree.write directory path text = .error e) (deeds : List Deed) :
    treeAfter directory tree (.wrote path text :: deeds) = treeAfter directory tree deeds := by
  rw [treeAfter, List.foldl_cons, Deed.leave, h]
  rfl

theorem spot_treeAfter (deeds : List Deed) :
    (treeAfter directory tree deeds).spot directory = tree.spot directory := by
  induction deeds generalizing tree with
  | nil => rfl
  | cons d rest ih => rw [treeAfter, List.foldl_cons, ← treeAfter, ih, d.spot_leave]

@[simp] theorem documents_append (deeds others : List Deed) :
    documents (deeds ++ others) = documents deeds ++ documents others := by
  rw [documents, List.filterMap_append]
  rfl

end Deeds

/-! ### Hosts that record deeds -/

structure Journal where
  tree : Tree
  directory : Location
  deeds : List Deed := []
deriving DecidableEq

namespace Journal

def record (j : Journal) (d : Deed) : Journal :=
  { j with tree := d.leave j.directory j.tree, deeds := j.deeds ++ [d] }

/-- The world without the order of its making. -/
def world (j : Journal) : World := ⟨j.tree, j.directory, utterances j.deeds⟩

end Journal

instance : Host (StateM Journal) where
  directory := fun j => (j.directory, j)
  isPresent path := fun j => (j.tree.isPresent j.directory path, j)
  read path := fun j => (j.tree.read j.directory path, j)
  write path text := fun j =>
    ((j.tree.write j.directory path text).map fun _ => (), j.record (.wrote path text))
  say printer event := fun j => ((), j.record (.said ⟨printer, event⟩))

def World.record (w : World) (d : Deed) : World :=
  { w with tree := d.leave w.directory w.tree, said := w.said ++ d.utterance?.toList }

/-- A host with a tree that the deeds of a run change as they would change a directory tree. -/
class Records (σ : Type) [Host (StateM σ)] where
  tree : σ → Tree
  directory : σ → Location
  record : σ → Deed → σ
  tree_record : ∀ w d, tree (record w d) = d.leave (directory w) (tree w)
  directory_record : ∀ w d, directory (record w d) = directory w
  run_directory : ∀ w, StateT.run (Host.directory : StateM σ Location) w = (directory w, w)
  run_isPresent : ∀ w path,
    StateT.run (Host.isPresent path : StateM σ Bool) w = ((tree w).isPresent (directory w) path, w)
  run_read : ∀ w path,
    StateT.run (Host.read path : StateM σ (Except FileError String)) w =
      ((tree w).read (directory w) path, w)
  run_write : ∀ w path text,
    StateT.run (Host.write path text : StateM σ (Except FileError Unit)) w =
      (((tree w).write (directory w) path text).map fun _ => (), record w (.wrote path text))
  run_say : ∀ w printer event,
    StateT.run (Host.say printer event : StateM σ Unit) w = ((), record w (.said ⟨printer, event⟩))

instance : Records Journal where
  tree := Journal.tree
  directory := Journal.directory
  record := Journal.record
  tree_record _ _ := rfl
  directory_record _ _ := rfl
  run_directory _ := rfl
  run_isPresent _ _ := rfl
  run_read _ _ := rfl
  run_write _ _ _ := rfl
  run_say _ _ _ := rfl

instance : Records World where
  tree := World.tree
  directory := World.directory
  record := World.record
  tree_record _ _ := rfl
  directory_record _ _ := rfl
  run_directory _ := rfl
  run_isPresent _ _ := rfl
  run_read _ _ := rfl
  run_write w path text := by
    show (match w.tree.write w.directory path text with
      | .error e => (.error e, w)
      | .ok tree => (.ok (), { w with tree }) : Except FileError Unit × World) = _
    rw [World.record, Deed.leave, Deed.utterance?, Option.toList_none, List.append_nil]
    cases w.tree.write w.directory path text <;> rfl
  run_say _ _ _ := rfl

/-! ### Runs and their deeds -/

section Takes

variable {σ α β : Type} [Host (StateM σ)] [Records σ]

/-- In this state the run does these deeds and ends with this result. -/
def Takes (x : ExceptT Failure (StateM σ) α) (w : σ) (deeds : List Deed) (result : Except Failure α) : Prop :=
  StateT.run (ExceptT.run x) w = (result, deeds.foldl Records.record w)

variable {w : σ} {deeds others : List Deed}

theorem Records.directory_foldl (w : σ) (deeds : List Deed) :
    directory (deeds.foldl record w) = directory w := by
  induction deeds generalizing w with
  | nil => rfl
  | cons d rest ih => rw [List.foldl_cons, ih, directory_record]

theorem Records.tree_foldl (w : σ) (deeds : List Deed) :
    tree (deeds.foldl record w) = treeAfter (directory w) (tree w) deeds := by
  induction deeds generalizing w with
  | nil => rfl
  | cons d rest ih => rw [List.foldl_cons, ih, directory_record, tree_record, treeAfter, treeAfter, List.foldl_cons]

namespace Takes

theorem pure (a : α) (w : σ) : Takes (Pure.pure a : ExceptT Failure (StateM σ) α) w [] (.ok a) := rfl

theorem throw (f : Failure) (w : σ) :
    Takes (MonadExcept.throw f : ExceptT Failure (StateM σ) α) w [] (.error f) := rfl

theorem bind {x : ExceptT Failure (StateM σ) α} {f : α → ExceptT Failure (StateM σ) β} {a : α}
    {result : Except Failure β} (hx : Takes x w deeds (.ok a))
    (hf : Takes (f a) (deeds.foldl Records.record w) others result) :
    Takes (x >>= f) w (deeds ++ others) result := by
  rw [Takes, ExceptT.run_bind, StateT.run_bind, hx, List.foldl_append]
  exact hf

theorem bind_error {x : ExceptT Failure (StateM σ) α} {e : Failure} (hx : Takes x w deeds (.error e))
    (f : α → ExceptT Failure (StateM σ) β) : Takes (x >>= f) w deeds (.error e) := by
  rw [Takes, ExceptT.run_bind, StateT.run_bind, hx]
  rfl

/-- The first part does nothing but answer. -/
theorem ask {x : ExceptT Failure (StateM σ) α} {f : α → ExceptT Failure (StateM σ) β} {a : α}
    {result : Except Failure β} (hx : Takes x w [] (.ok a)) (hf : Takes (f a) w deeds result) :
    Takes (x >>= f) w deeds result := hx.bind hf

theorem map {x : ExceptT Failure (StateM σ) α} {result : Except Failure α} (hx : Takes x w deeds result)
    (g : α → β) : Takes (x >>= fun a => Pure.pure (g a)) w deeds (result.map g) := by
  cases result with
  | ok a =>
    have hmap := hx.bind (f := fun a => Pure.pure (g a)) (pure (g a) _)
    rw [List.append_nil] at hmap
    exact hmap
  | error e => exact hx.bind_error _

end Takes

theorem takes_directory (w : σ) :
    Takes (Host.directory : ExceptT Failure (StateM σ) Location) w [] (.ok (Records.directory w)) := by
  show (match StateT.run (Host.directory : StateM σ Location) w with | (a, w') => (Except.ok a, w')) = _
  rw [Records.run_directory]
  rfl

theorem takes_isPresent {path : String} {b : Bool}
    (h : (Records.tree w).isPresent (Records.directory w) path = b) :
    Takes (Host.isPresent path : ExceptT Failure (StateM σ) Bool) w [] (.ok b) := by
  show (match StateT.run (Host.isPresent path : StateM σ Bool) w with | (a, w') => (Except.ok a, w')) = _
  rw [Records.run_isPresent, h]
  rfl

theorem takes_read {path : String} {r : Except FileError String}
    (h : (Records.tree w).read (Records.directory w) path = r) :
    Takes (Host.read path : ExceptT Failure (StateM σ) (Except FileError String)) w [] (.ok r) := by
  show (match StateT.run (Host.read path : StateM σ (Except FileError String)) w with
    | (a, w') => (Except.ok a, w')) = _
  rw [Records.run_read, h]
  rfl

theorem takes_write {path text : String} {r : Except FileError Tree}
    (h : (Records.tree w).write (Records.directory w) path text = r) :
    Takes (Host.write path text : ExceptT Failure (StateM σ) (Except FileError Unit)) w [.wrote path text]
      (.ok (r.map fun _ => ())) := by
  show (match StateT.run (Host.write path text : StateM σ (Except FileError Unit)) w with
    | (a, w') => (Except.ok a, w')) = _
  rw [Records.run_write, h]
  rfl

theorem takes_say (p : Printer) (e : Event) (w : σ) :
    Takes (Host.say p e : ExceptT Failure (StateM σ) Unit) w [.said ⟨p, e⟩] (.ok ()) := by
  show (match StateT.run (Host.say p e : StateM σ Unit) w with | (a, w') => (Except.ok a, w')) = _
  rw [Records.run_say]
  rfl

end Takes

end BundleCheck
