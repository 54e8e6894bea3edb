/-!
# Paths as text

A path stays the text that it was given as, since messages show it. These functions cut that text at
its last name. Slashes at the end and components `.` behind the first place mean nothing, so they are
passed over in the search for the last name and go with it when it is replaced.
-/

namespace BundleCheck.Path

/-- The pieces between slashes. There is always one. -/
def pieces : List Char → List (List Char)
  | [] => [[]]
  | c :: rest =>
    if c = '/' then [] :: pieces rest
    else
      match pieces rest with
      | [] => [[c]]
      | piece :: others => (c :: piece) :: others

def joinPieces : List (List Char) → List Char
  | [] => []
  | [piece] => piece
  | piece :: others => piece ++ '/' :: joinPieces others

/-- Whether a piece means nothing behind the first place. -/
def isIdle (piece : List Char) : Bool := piece == [] || piece == ['.']

/-- Leaves out the pieces at the end that mean nothing. -/
def dropIdle (pieces : List (List Char)) : List (List Char) :=
  (pieces.reverse.dropWhile isIdle).reverse

/-- The start of a path that is no name, the root or the current directory, and the rest. -/
def splitStart (path : List Char) : List Char × List Char :=
  match path with
  | '/' :: rest => (['/'], rest)
  | ['.'] => (['.'], [])
  | '.' :: '/' :: rest => (['.'], '/' :: rest)
  | _ => ([], path)

/-- A path cut before its last component. The component can be `..`, which is no name. -/
structure Cut where
  parent : List Char
  last : List Char
deriving DecidableEq, Repr

/-- Cuts a path before its last component, if it has one besides its start. -/
def cut? (path : List Char) : Option Cut :=
  let (start, rest) := splitStart path
  match (dropIdle (pieces rest)).reverse with
  | [] => none
  | last :: before => some ⟨start ++ joinPieces (dropIdle before.reverse), last⟩

/-- The path of what is above, told from the text alone. The current directory has nothing above it but the
empty path. -/
def parent? (path : List Char) : Option (List Char) :=
  match cut? path with
  | some cut => some cut.parent
  | none => if (splitStart path).1 = ['.'] then some [] else none

/-- Adds a name to a path. -/
def join (path name : List Char) : List Char :=
  match path.getLast? with
  | none => name
  | some c => if c = '/' then path ++ name else path ++ '/' :: name

/-- The path of a name within a directory. -/
def entry (directory : List Char) (name : String) : String :=
  String.ofList (join directory name.toList)

/-! ### What is above is shorter -/

/-- The length of pieces with a slash behind each. -/
def width : List (List Char) → Nat
  | [] => 0
  | piece :: others => piece.length + 1 + width others

theorem width_nil : width [] = 0 := rfl

theorem width_cons (piece : List Char) (others : List (List Char)) :
    width (piece :: others) = piece.length + 1 + width others := rfl

theorem width_append (front back : List (List Char)) : width (front ++ back) = width front + width back := by
  induction front with
  | nil => rw [List.nil_append, width_nil, Nat.zero_add]
  | cons piece front ih =>
    rw [List.cons_append, width_cons, width_cons, ih]
    omega

theorem width_pieces (path : List Char) : width (pieces path) = path.length + 1 := by
  induction path with
  | nil => rfl
  | cons c rest ih =>
    rw [pieces, List.length_cons]
    split
    · rw [width_cons, ih, List.length_nil]
      omega
    · split
      · rename_i hnone
        rw [hnone, width_nil] at ih
        omega
      · rename_i piece others hsome
        rw [hsome, width_cons] at ih
        rw [width_cons, List.length_cons]
        omega

theorem joinPieces_cons_cons (piece next : List Char) (others : List (List Char)) :
    joinPieces (piece :: next :: others) = piece ++ '/' :: joinPieces (next :: others) := rfl

theorem length_joinPieces_le (pieces : List (List Char)) : (joinPieces pieces).length ≤ width pieces - 1 := by
  induction pieces with
  | nil => exact Nat.zero_le _
  | cons piece others ih =>
    cases others with
    | nil => simp [joinPieces, width]
    | cons next others =>
      rw [width_cons] at ih
      rw [joinPieces_cons_cons, List.length_append, List.length_cons, width_cons, width_cons]
      omega

theorem width_dropIdle_le (pieces : List (List Char)) : width (dropIdle pieces) ≤ width pieces := by
  obtain ⟨idle, h⟩ := List.dropWhile_suffix isIdle (l := pieces.reverse)
  have hparts : dropIdle pieces ++ idle.reverse = pieces := by
    rw [dropIdle, ← List.reverse_append, h, List.reverse_reverse]
  rw [← congrArg width hparts, width_append]
  exact Nat.le_add_right _ _

theorem length_splitStart (path : List Char) :
    (splitStart path).1.length + (splitStart path).2.length = path.length := by
  unfold splitStart
  split <;> simp <;> omega

theorem length_lt_of_cut? {path : List Char} {cut : Cut} (h : cut? path = some cut) :
    cut.parent.length < path.length := by
  have hparts := length_splitStart path
  unfold cut? at h
  simp only at h
  split at h
  · cases h
  · rename_i last before hpieces
    obtain rfl := Option.some.inj h
    have hsplit : dropIdle (pieces (splitStart path).2) = before.reverse ++ [last] := by
      rw [← List.reverse_cons, ← hpieces, List.reverse_reverse]
    have hlast : isIdle last = false := by
      have hhead := List.head?_dropWhile_not isIdle (pieces (splitStart path).2).reverse
      rw [dropIdle, List.reverse_reverse] at hpieces
      simpa [hpieces] using hhead
    have hne : 0 < last.length := List.length_pos_iff.2 fun hnil => by simp [hnil, isIdle] at hlast
    have hsize := width_dropIdle_le (pieces (splitStart path).2)
    have hbefore := width_dropIdle_le before.reverse
    have hjoined := length_joinPieces_le (dropIdle before.reverse)
    rw [hsplit, width_append, width_pieces, width_cons, width_nil] at hsize
    rw [List.length_append]
    omega

theorem length_lt_of_parent? {path parent : List Char} (h : parent? path = some parent) :
    parent.length < path.length := by
  rw [parent?] at h
  split at h
  · rename_i cut hcut
    obtain rfl := Option.some.inj h
    exact length_lt_of_cut? hcut
  · split at h
    · rename_i hdot
      obtain rfl := Option.some.inj h
      have hparts := length_splitStart path
      rw [hdot, List.length_singleton] at hparts
      rw [List.length_nil]
      omega
    · cases h

end BundleCheck.Path
