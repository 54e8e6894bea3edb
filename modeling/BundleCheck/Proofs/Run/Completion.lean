import BundleCheck.Run.Checking
import BundleCheck.Proofs.Bundle.Index

/-!
# Runs that come to their end

A run on a directory tree either ends with a value and a world, or fails. `Finishes` says that it ends so,
and its lemmas take a run apart at each step: what a step asks of the world, what it changes, and what it
hands on.
-/

namespace BundleCheck

/-- A run that can fail, on a directory tree. -/
abbrev Run (α : Type) : Type := ExceptT Failure (StateM World) α

namespace Run

variable {α β : Type} {w w' w'' : World}

/-- How the run ends, and the world that it leaves. -/
def outcome (x : Run α) (w : World) : Except Failure α × World := ExceptT.run x w

/-- The run ends with a value and leaves a world. -/
def Finishes (x : Run α) (w : World) (a : α) (w' : World) : Prop := x.outcome w = (.ok a, w')

theorem Finishes.unique {x : Run α} {a b : α} (h : Finishes x w a w') (h' : Finishes x w b w'') :
    a = b ∧ w' = w'' := by
  have heq := h.symm.trans h'
  simpa using heq

/-! ### Steps -/

theorem outcome_pure (a : α) (w : World) : outcome (pure a) w = (.ok a, w) := rfl

theorem outcome_throw (f : Failure) (w : World) : outcome (throw f : Run α) w = (.error f, w) := rfl

theorem outcome_bind (x : Run α) (f : α → Run β) (w : World) :
    outcome (x >>= f) w =
      match outcome x w with
      | (.ok a, w') => outcome (f a) w'
      | (.error e, w') => (.error e, w') := by
  show (match outcome x w with
    | (r, w') => (ExceptT.bindCont f r : StateM World (Except Failure β)) w') = _
  rcases outcome x w with ⟨r, w'⟩
  cases r <;> rfl

theorem outcome_directory (w : World) : outcome (Host.directory : Run Location) w = (.ok w.directory, w) := rfl

theorem outcome_isPresent (path : String) (w : World) :
    outcome (Host.isPresent path : Run Bool) w = (.ok (w.tree.isPresent w.directory path), w) := rfl

theorem outcome_read (path : String) (w : World) :
    outcome (Host.read path : Run (Except FileError String)) w =
      (.ok (w.tree.read w.directory path), w) := rfl

theorem outcome_write (path text : String) (w : World) :
    outcome (Host.write path text : Run (Except FileError Unit)) w =
      match w.tree.write w.directory path text with
      | .error e => (.ok (.error e), w)
      | .ok tree => (.ok (.ok ()), { w with tree }) := by
  show (let (r, w') := (match w.tree.write w.directory path text with
    | .error e => (.error e, w)
    | .ok tree => (.ok (), { w with tree }) : Except FileError Unit × World); (Except.ok r, w')) = _
  cases w.tree.write w.directory path text <;> rfl

theorem outcome_say (p : Printer) (e : Event) (w : World) :
    outcome (Host.say p e : Run Unit) w = (.ok (), { w with said := w.said ++ [⟨p, e⟩] }) := rfl

/-! ### Steps that finish -/

theorem finishes_pure_iff {a b : α} : Finishes (pure a) w b w' ↔ a = b ∧ w = w' := by
  rw [Finishes, outcome_pure]
  simp

theorem not_finishes_throw {f : Failure} {a : α} : ¬ Finishes (throw f) w a w' := by
  rw [Finishes, outcome_throw]
  simp

theorem finishes_bind_iff {x : Run α} {f : α → Run β} {b : β} :
    Finishes (x >>= f) w b w'' ↔ ∃ a w', Finishes x w a w' ∧ Finishes (f a) w' b w'' := by
  rw [Finishes, outcome_bind]
  constructor
  · intro h
    split at h
    · rename_i a w' hx
      exact ⟨a, w', hx, h⟩
    · cases h
  · rintro ⟨a, w', hx, hf⟩
    rw [show outcome x w = (.ok a, w') from hx]
    exact hf

theorem finishes_pure (a : α) (w : World) : Finishes (pure a) w a w := finishes_pure_iff.2 ⟨rfl, rfl⟩

theorem Finishes.bind {x : Run α} {f : α → Run β} {a : α} {b : β} (hx : Finishes x w a w')
    (hf : Finishes (f a) w' b w'') : Finishes (x >>= f) w b w'' :=
  finishes_bind_iff.2 ⟨a, w', hx, hf⟩

theorem finishes_directory_iff {l : Location} :
    Finishes (Host.directory : Run Location) w l w' ↔ w.directory = l ∧ w = w' := by
  rw [Finishes, outcome_directory]
  simp

theorem finishes_isPresent_iff {path : String} {b : Bool} :
    Finishes (Host.isPresent path : Run Bool) w b w' ↔
      w.tree.isPresent w.directory path = b ∧ w = w' := by
  rw [Finishes, outcome_isPresent]
  simp

theorem finishes_isPresent {path : String} {b : Bool} (h : w.tree.isPresent w.directory path = b) :
    Finishes (Host.isPresent path : Run Bool) w b w :=
  finishes_isPresent_iff.2 ⟨h, rfl⟩

theorem finishes_read_iff {path : String} {r : Except FileError String} :
    Finishes (Host.read path : Run (Except FileError String)) w r w' ↔
      w.tree.read w.directory path = r ∧ w = w' := by
  rw [Finishes, outcome_read]
  simp

theorem finishes_read {path : String} {r : Except FileError String} (h : w.tree.read w.directory path = r) :
    Finishes (Host.read path : Run (Except FileError String)) w r w :=
  finishes_read_iff.2 ⟨h, rfl⟩

theorem finishes_write_iff {path text : String} {r : Except FileError Unit} :
    Finishes (Host.write path text : Run (Except FileError Unit)) w r w' ↔
      (∃ e, w.tree.write w.directory path text = .error e ∧ r = .error e ∧ w = w') ∨
        ∃ tree, w.tree.write w.directory path text = .ok tree ∧ r = .ok () ∧ { w with tree } = w' := by
  rw [Finishes, outcome_write]
  cases w.tree.write w.directory path text with
  | error e => simp [eq_comm]
  | ok tree => simp [eq_comm]

theorem finishes_say_iff {p : Printer} {e : Event} {u : Unit} :
    Finishes (Host.say p e : Run Unit) w u w' ↔ { w with said := w.said ++ [⟨p, e⟩] } = w' := by
  rw [Finishes, outcome_say]
  simp

theorem finishes_say (p : Printer) (e : Event) (w : World) :
    Finishes (Host.say p e : Run Unit) w () { w with said := w.said ++ [⟨p, e⟩] } :=
  finishes_say_iff.2 rfl

end Run

end BundleCheck
