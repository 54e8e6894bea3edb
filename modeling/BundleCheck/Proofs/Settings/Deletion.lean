import BundleCheck.Settings.Encoding
import Mathlib.Data.List.Nodup

/-!
# Members deleted from a value

A set of members of a JSON value is given by their places, and `without` is the value that is left when they are
deleted, at any depth. Of a record, reading then finds just the fields that were not deleted, each with what is left
of its value.
-/

namespace BundleCheck.Json

/-- A step from a value to a part of it. -/
inductive Step where
  | member (name : Option String)
  | item (index : Nat)
deriving DecidableEq

/-- Some places in a value, each given by the steps that lead to it. -/
abbrev Places := List Step → Bool

/-- The places behind a step. -/
def Places.behind (gone : Places) (step : Step) : Places := fun steps => gone (step :: steps)

/-- Whether the field of a record is among the places. -/
def Places.has (gone : Places) (name : String) : Bool := gone [.member name]

/-- The value of a field, or its default if the field is among the places. -/
def Places.pick {α : Type} (gone : Places) (name : String) (default value : α) : α :=
  if gone.has name then default else value

/-- The places in the value of a field. -/
def Places.under (gone : Places) (name : String) : Places := gone.behind (.member name)

mutual

/-- The value without the members at the given places. Items of an array always stay. -/
def without (gone : Places) : Json → Json
  | array items => array (withoutItems gone 0 items)
  | object members => object (withoutMembers gone members)
  | null => null
  | bool b => bool b
  | number literal => number literal
  | string s => string s

def withoutItems (gone : Places) (index : Nat) : List Json → List Json
  | [] => []
  | item :: items => without (gone.behind (.item index)) item :: withoutItems gone (index + 1) items

def withoutMembers (gone : Places) : List (Option String × Json) → List (Option String × Json)
  | [] => []
  | (name, value) :: members =>
    if gone [.member name] then withoutMembers gone members
    else (name, without (gone.behind (.member name)) value) :: withoutMembers gone members

end

variable {gone : Places}

/-! ### Nothing is deleted -/

mutual

theorem without_nothing : ∀ j : Json, j.without (fun _ => false) = j
  | array items => by rw [without, withoutItems_nothing]
  | object members => by rw [without, withoutMembers_nothing]
  | null | bool _ | number _ | string _ => by rw [without]

theorem withoutItems_nothing : ∀ (items : List Json) (index : Nat), withoutItems (fun _ => false) index items = items
  | [], _ => by rw [withoutItems]
  | item :: items, index => by
    rw [withoutItems, withoutItems_nothing items]
    exact congrArg (· :: items) (without_nothing item)

theorem withoutMembers_nothing : ∀ members : List (Option String × Json), withoutMembers (fun _ => false) members = members
  | [] => by rw [withoutMembers]
  | (name, value) :: members => by
    rw [withoutMembers, withoutMembers_nothing members]
    exact congrArg (fun v => (name, v) :: members) (without_nothing value)

end

/-! ### Leaves -/

@[simp] theorem toBool?_bool (b : Bool) : (bool b).toBool? = some b := rfl

@[simp] theorem toText?_text (s : String) : (text s).toText? = some s := rfl

@[simp] theorem toChar?_char (c : Char) : (char c).toChar? = some c := by
  simp [toChar?, char]

/-! ### Lists -/

section Lists

variable {α β : Type} {encode : β → Json} {decode : Json → Option α}

theorem mapM_withoutItems {f : Nat → β → α} (start : Nat)
    (h : ∀ i b, decode ((encode b).without (gone.behind (.item (start + i)))) = some (f i b)) (values : List β) :
    (withoutItems gone start (values.map encode)).mapM decode = some (values.mapIdx f) := by
  induction values generalizing start f with
  | nil => simp [withoutItems]
  | cons b values ih =>
    have hrest := ih (start + 1) (f := fun i => f (i + 1)) fun i b => by
      rw [Nat.add_assoc, Nat.add_comm 1 i]
      exact h (i + 1) b
    have hhead : decode ((encode b).without (gone.behind (.item start))) = some (f 0 b) := h 0 b
    rw [List.map_cons, withoutItems, List.mapM_cons, hhead, hrest, List.mapIdx_cons]
    rfl

/-- A list is read item by item, each from what is left of it. -/
theorem toList?_without {f : Nat → β → α} (gone : Places)
    (h : ∀ i b, decode ((encode b).without (gone.behind (.item i))) = some (f i b)) (values : List β) :
    toList? decode ((array (values.map encode)).without gone) = some (values.mapIdx f) := by
  rw [without, toList?]
  refine mapM_withoutItems 0 (fun i b => ?_) values
  rw [Nat.zero_add]
  exact h i b

theorem toList?_without_of_leaves {encode : α → Json} (h : ∀ gone a, decode ((encode a).without gone) = some a)
    (gone : Places) (values : List α) : toList? decode ((array (values.map encode)).without gone) = some values := by
  rw [toList?_without gone fun i a => h _ a]
  exact congrArg some (List.mapIdx_eq_iff.2 fun i => by rw [Option.map_id'])

end Lists

/-! ### Records -/

/-- What is left of the fields of a record. -/
def remaining (gone : Places) (members : List (String × Json)) : Fields := fun name =>
  if gone.has name then none else (members.lookup name).map (without (gone.under name))

/-- The members of a record. -/
def named (members : List (String × Json)) : List (Option String × Json) :=
  members.map fun (name, value) => (some name, value)

theorem withoutMembers_cons (gone : Places) (name : String) (value : Json) (members : List (String × Json)) :
    withoutMembers gone (named ((name, value) :: members)) =
      if gone.has name then withoutMembers gone (named members)
      else (some name, value.without (gone.under name)) :: withoutMembers gone (named members) := rfl

theorem map_fst_withoutMembers (gone : Places) (members : List (String × Json)) :
    (withoutMembers gone (named members)).map Prod.fst =
      ((members.map Prod.fst).filter fun name => !gone.has name).map some := by
  induction members with
  | nil => rfl
  | cons member members ih =>
    obtain ⟨name, value⟩ := member
    rw [withoutMembers_cons, List.map_cons, List.filter_cons]
    cases hname : gone.has name <;> simpa [hname] using ih

theorem lookup_withoutMembers (gone : Places) (members : List (String × Json)) (name : String) :
    (withoutMembers gone (named members)).lookup (some name) = remaining gone members name := by
  induction members with
  | nil => simp [named, withoutMembers, remaining]
  | cons member members ih =>
    obtain ⟨own, value⟩ := member
    rw [withoutMembers_cons, remaining, List.lookup_cons]
    rw [remaining] at ih
    by_cases hname : name = own
    · subst hname
      cases hgone : gone.has name with
      | true => simpa [hgone] using ih
      | false => simp
    · have hother : (name == own) = false := beq_false_of_ne hname
      cases gone.has own <;> simpa [List.lookup_cons, hother] using ih

/-- Of a record, reading finds the fields that were not deleted. -/
theorem fields?_without {names : List String} {members : List (String × Json)} (hnames : members.map Prod.fst = names)
    (hnodup : names.Nodup) (closed : Bool) (gone : Places) :
    ((record members).without gone).fields? names closed = some (remaining gone members) := by
  have hgiven := map_fst_withoutMembers gone members
  rw [hnames] at hgiven
  have hgivenNodup : ((names.filter fun name => !gone.has name).map some).Nodup :=
    (hnodup.filter _).map fun _ _ => Option.some.inj
  have honce : ∀ name : String, ((names.filter fun name => !gone.has name).map some).count (some name) ≤ 1 :=
    fun name => List.nodup_iff_count_le_one.1 hgivenNodup (some name)
  have hsome : ∀ name ∈ (names.filter fun name => !gone.has name).map some, name.isSome = true := by
    intro name hname
    obtain ⟨own, -, rfl⟩ := List.mem_map.1 hname
    rfl
  have hknown : ∀ name ∈ (names.filter fun name => !gone.has name).map some, name.all names.contains = true := by
    intro name hname
    obtain ⟨own, hown, rfl⟩ := List.mem_map.1 hname
    exact List.contains_iff_mem.2 (List.mem_filter.1 hown).1
  show fieldsOfMembers? names closed (withoutMembers gone (named members)) = _
  rw [fieldsOfMembers?, hgiven, if_pos]
  · exact congrArg some (funext fun name => lookup_withoutMembers gone members name)
  · simp only [Bool.and_eq_true, Bool.or_eq_true, List.all_eq_true, decide_eq_true_iff]
    exact ⟨⟨hsome, fun name _ => honce name⟩, .inr hknown⟩

/-- What is built from the fields of a record is built from those that are left. -/
theorem fields?_without_bind {α : Type} {names : List String} {members : List (String × Json)}
    (hnames : members.map Prod.fst = names) (hnodup : names.Nodup) (closed : Bool) (gone : Places)
    (build : Fields → Option α) :
    (((record members).without gone).fields? names closed >>= build) = build (remaining gone members) := by
  rw [fields?_without hnames hnodup, Option.bind_eq_bind, Option.bind_some]

theorem remaining_of_kept {members : List (String × Json)} {name : String} {value : Json} (hkept : gone.has name = false)
    (hvalue : members.lookup name = some value) : remaining gone members name = some (value.without (gone.under name)) := by
  rw [remaining, hkept, hvalue]
  rfl

theorem get?_remaining {α : Type} {members : List (String × Json)} {name : String} {value : Json} {a : α}
    {decode : Json → Option α} (hvalue : members.lookup name = some value)
    (hdecode : decode (value.without (gone.under name)) = some a) (default : α) :
    (remaining gone members).get? name default decode = some (gone.pick name default a) := by
  rw [Fields.get?, remaining, hvalue, Places.pick]
  cases gone.has name with
  | true => rfl
  | false => exact hdecode

end BundleCheck.Json
