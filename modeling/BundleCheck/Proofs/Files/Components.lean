import BundleCheck.Files.Path
import Mathlib.Data.List.Basic
import Mathlib.Data.List.Induction

/-!
# Components of a path

Two texts can be the same path: what a path means is the list of its components, in which slashes in a row count as
one, and slashes at the end and dots behind the first place are left out. The file name is the last component, if
that is a name. Cutting a path and joining a name work on the text. In terms of components cutting takes the last
one off whatever the text looked like, and joining puts one behind.
-/

namespace BundleCheck.Path

/-! ### Pieces -/

theorem pieces_ne_nil (path : List Char) : pieces path ≠ [] := by
  cases path with
  | nil => exact List.cons_ne_nil _ _
  | cons c rest =>
    rw [pieces]
    split
    · exact List.cons_ne_nil _ _
    · split <;> exact List.cons_ne_nil _ _

theorem pieces_slash (rest : List Char) : pieces ('/' :: rest) = [] :: pieces rest := by
  rw [pieces, if_pos rfl]

theorem pieces_of_notMem {piece : List Char} (h : '/' ∉ piece) : pieces piece = [piece] := by
  induction piece with
  | nil => rfl
  | cons c piece ih =>
    rw [List.mem_cons, not_or] at h
    rw [pieces, if_neg (Ne.symm h.1), ih h.2]

theorem pieces_append_slash (front rest : List Char) : pieces (front ++ '/' :: rest) = pieces front ++ pieces rest := by
  induction front with
  | nil => rw [List.nil_append, pieces_slash]; rfl
  | cons c front ih =>
    by_cases hc : c = '/'
    · rw [hc, List.cons_append, pieces_slash, pieces_slash, ih]
      rfl
    · obtain ⟨piece, others, hfront⟩ := List.exists_cons_of_ne_nil (pieces_ne_nil front)
      rw [List.cons_append, pieces, pieces, if_neg hc, if_neg hc, ih, hfront]
      rfl

theorem notMem_of_mem_pieces {path piece : List Char} (h : piece ∈ pieces path) : '/' ∉ piece := by
  induction path generalizing piece with
  | nil => simp [pieces] at h; simp [h]
  | cons c rest ih =>
    rw [pieces] at h
    split at h
    · rcases List.mem_cons.1 h with rfl | h
      · exact List.not_mem_nil
      · exact ih h
    · rename_i hc
      obtain ⟨first, others, hrest⟩ := List.exists_cons_of_ne_nil (pieces_ne_nil rest)
      rw [hrest] at h
      rcases List.mem_cons.1 h with rfl | h
      · rw [List.mem_cons, not_or]
        exact ⟨Ne.symm hc, ih (hrest ▸ List.mem_cons_self)⟩
      · exact ih (hrest ▸ List.mem_cons_of_mem first h)

theorem pieces_joinPieces {ps : List (List Char)} (h : ∀ p ∈ ps, '/' ∉ p) (hne : ps ≠ []) :
    pieces (joinPieces ps) = ps := by
  induction ps with
  | nil => exact absurd rfl hne
  | cons p ps ih =>
    obtain ⟨hp, hps⟩ := List.forall_mem_cons.1 h
    cases ps with
    | nil => exact pieces_of_notMem hp
    | cons q ps =>
      rw [joinPieces, pieces_append_slash, pieces_of_notMem hp, ih hps (List.cons_ne_nil _ _)]
      · rfl
      · exact List.cons_ne_nil _ _

theorem pieces_eq_singleton_nil_iff {path : List Char} : pieces path = [[]] ↔ path = [] := by
  constructor
  · intro h
    cases path with
    | nil => rfl
    | cons c rest =>
      obtain ⟨piece, others, hrest⟩ := List.exists_cons_of_ne_nil (pieces_ne_nil rest)
      rw [pieces, hrest] at h
      split at h
      · simp at h
      · simp at h
  · rintro rfl
    rfl

/-! ### Components -/

/-- One step of a path. -/
inductive Component where
  | root
  /-- The current directory, which is a step in the first place only. -/
  | current
  | up
  | name (text : List Char)
deriving DecidableEq, Repr

def Component.ofPiece (piece : List Char) : Component := if piece = ['.', '.'] then up else name piece

def Component.name? : Component → Option (List Char)
  | name text => some text
  | _ => none

theorem Component.name?_ofPiece (piece : List Char) :
    (ofPiece piece).name? = if piece = ['.', '.'] then none else some piece := by
  rw [ofPiece]
  split <;> rfl

/-- The steps that pieces stand for, of which some stand for none. -/
def named (ps : List (List Char)) : List Component := (ps.filter fun p => !isIdle p).map .ofPiece

/-- What a path begins with that is no name. -/
def beginning (path : List Char) : List Component :=
  if path.head? = some '/' then [.root]
  else if (pieces path).head? = some ['.'] then [.current]
  else []

def components (path : List Char) : List Component := beginning path ++ named (pieces path)

/-- The last component, if it is a name. -/
def fileName? (path : List Char) : Option (List Char) := (components path).getLast?.bind Component.name?

theorem named_append (ps qs : List (List Char)) : named (ps ++ qs) = named ps ++ named qs := by
  rw [named, List.filter_append, List.map_append]
  rfl

theorem named_of_isIdle {ps : List (List Char)} (h : ∀ p ∈ ps, isIdle p = true) : named ps = [] := by
  rw [named, List.filter_eq_nil_iff.2 fun p hp => by simp [h p hp]]
  rfl

theorem named_singleton {p : List Char} (h : isIdle p = false) : named [p] = [.ofPiece p] := by
  simp [named, h]

/-- What a path begins with, told from its pieces. A slash in the first place leaves an empty piece before others. -/
def beginningOf (ps : List (List Char)) : List Component :=
  if ps.head? = some [] ∧ 1 < ps.length then [.root]
  else if ps.head? = some ['.'] then [.current]
  else []

theorem beginning_eq (path : List Char) : beginning path = beginningOf (pieces path) := by
  cases path with
  | nil => rfl
  | cons c rest =>
    obtain ⟨piece, others, hrest⟩ := List.exists_cons_of_ne_nil (pieces_ne_nil rest)
    by_cases hc : c = '/'
    · simp [hc, beginning, beginningOf, pieces_slash, hrest]
    · have hpieces : pieces (c :: rest) = (c :: piece) :: others := by
        rw [pieces, if_neg hc, hrest]
      simp [hc, beginning, beginningOf, hpieces]

theorem components_eq (path : List Char) : components path = beginningOf (pieces path) ++ named (pieces path) := by
  rw [components, beginning_eq]

theorem name?_of_mem_beginning {path : List Char} {c : Component} (h : c ∈ beginning path) : c.name? = none := by
  rw [beginning] at h
  split at h
  · rw [List.mem_singleton.1 h]
    rfl
  · split at h
    · rw [List.mem_singleton.1 h]
      rfl
    · cases h

/-- More pieces change the beginning only of a path that has none. -/
theorem beginningOf_append {ps : List (List Char)} (hne : ps ≠ []) (hempty : ps ≠ [[]]) (qs : List (List Char)) :
    beginningOf (ps ++ qs) = beginningOf ps := by
  match ps with
  | [p] =>
    have hp : p ≠ [] := fun hp => hempty (congrArg (fun p => [p]) hp)
    simp [beginningOf, hp]
  | p :: q :: ps => simp [beginningOf]

theorem beginningOf_append_congr {ps : List (List Char)} (hne : ps ≠ []) (p q : List Char) :
    beginningOf (ps ++ [p]) = beginningOf (ps ++ [q]) := by
  obtain ⟨first, ps, rfl⟩ := List.exists_cons_of_ne_nil hne
  simp [beginningOf]

/-! ### Joining -/

variable {path name : List Char}

/-- Joining puts one component behind those of the path. -/
theorem components_join (hslash : '/' ∉ name) (hidle : isIdle name = false) :
    components (join path name) = components path ++ [.ofPiece name] := by
  have hname := pieces_of_notMem hslash
  obtain rfl | ⟨front, c, rfl⟩ := path.eq_nil_or_concat'
  · have hbeginning : beginningOf [name] = [] := by
      have hdot : name ≠ ['.'] := by
        rintro rfl
        cases hidle
      simp [beginningOf, hdot]
    rw [join, components_eq]
    simp only [List.getLast?_nil]
    rw [hname, hbeginning, named_singleton hidle]
    rfl
  · rw [join, List.getLast?_concat]
    simp only
    split
    · rename_i hc
      rw [hc, List.append_assoc, List.singleton_append, components_eq, components_eq, pieces_append_slash,
        pieces_append_slash, hname, named_append, named_append, named_singleton hidle,
        beginningOf_append_congr (pieces_ne_nil front) name []]
      have hlast : named (pieces []) = [] := rfl
      rw [hlast, List.append_nil, List.append_assoc]
      rfl
    · rw [components_eq, components_eq, pieces_append_slash, hname, named_append, named_singleton hidle,
        beginningOf_append (pieces_ne_nil _) (by simp [pieces_eq_singleton_nil_iff]), List.append_assoc]

/-! ### Cutting -/

theorem dropIdle_concat (ps : List (List Char)) (p : List Char) :
    dropIdle (ps ++ [p]) = if isIdle p then dropIdle ps else ps ++ [p] := by
  rw [dropIdle, List.reverse_concat, List.dropWhile_cons]
  split
  · rfl
  · rw [List.reverse_cons, List.reverse_reverse]

/-- There is a last piece that means something, or none does. -/
theorem dropIdle_cases (ps : List (List Char)) :
    (dropIdle ps = [] ∧ named ps = []) ∨
      ∃ front last, dropIdle ps = front ++ [last] ∧ front ++ [last] <+: ps ∧ isIdle last = false ∧
        named ps = named front ++ [.ofPiece last] := by
  induction ps using List.reverseRecOn with
  | nil => exact .inl ⟨rfl, rfl⟩
  | append_singleton ps p ih =>
    rw [dropIdle_concat]
    cases hp : isIdle p with
    | true =>
      have hnamed : named (ps ++ [p]) = named ps := by
        rw [named_append, named_of_isIdle (List.forall_mem_singleton.2 hp), List.append_nil]
      rw [if_pos rfl, hnamed]
      refine ih.imp id ?_
      rintro ⟨front, last, hdrop, hstarts, hlast⟩
      exact ⟨front, last, hdrop, hstarts.trans (List.prefix_append ps [p]), hlast⟩
    | false =>
      rw [if_neg Bool.false_ne_true, named_append, named_singleton hp]
      exact .inr ⟨ps, p, rfl, List.prefix_rfl, hp, rfl⟩

theorem dropIdle_prefix_self (ps : List (List Char)) : dropIdle ps <+: ps := by
  rcases dropIdle_cases ps with ⟨hdrop, -⟩ | ⟨front, last, hdrop, hstarts, -⟩
  · exact hdrop ▸ List.nil_prefix
  · exact hdrop ▸ hstarts

theorem named_dropIdle (ps : List (List Char)) : named (dropIdle ps) = named ps := by
  rcases dropIdle_cases ps with ⟨hdrop, hnamed⟩ | ⟨front, last, hdrop, -, hlast, hnamed⟩
  · rw [hdrop, hnamed]
    rfl
  · rw [hdrop, hnamed, named_append, named_singleton hlast]

theorem named_pieces_joinPieces {ps : List (List Char)} (h : ∀ p ∈ ps, '/' ∉ p) :
    named (pieces (joinPieces ps)) = named ps := by
  by_cases hne : ps = []
  · rw [hne]
    rfl
  · rw [pieces_joinPieces h hne]

/-- A path begins with a slash, or it is or begins with a dot of its own, or it has no beginning. -/
theorem splitStart_cases (path : List Char) :
    (∃ rest, path = '/' :: rest ∧ splitStart path = (['/'], rest)) ∨
    (path = ['.'] ∧ splitStart path = (['.'], [])) ∨
    (∃ rest, path = '.' :: '/' :: rest ∧ splitStart path = (['.'], '/' :: rest)) ∨
    (beginning path = [] ∧ splitStart path = ([], path)) := by
  unfold splitStart
  split
  · exact .inl ⟨_, rfl, rfl⟩
  · exact .inr (.inl ⟨rfl, rfl⟩)
  · exact .inr (.inr (.inl ⟨_, rfl, rfl⟩))
  · rename_i hslash hdot hdots
    refine .inr (.inr (.inr ⟨?_, rfl⟩))
    rw [beginning]
    match path with
    | [] => rfl
    | [c] =>
      have hc : c ≠ '/' := fun hc => hslash [] (hc ▸ rfl)
      have hcurrent : c ≠ '.' := fun hc => hdot (hc ▸ rfl)
      simp [pieces, hc, hcurrent]
    | c :: d :: rest =>
      have hc : c ≠ '/' := fun hc => hslash (d :: rest) (hc ▸ rfl)
      obtain ⟨piece, others, hpieces⟩ := List.exists_cons_of_ne_nil (pieces_ne_nil rest)
      by_cases hd : d = '/'
      · have hcurrent : c ≠ '.' := fun hc => hdots rest (by rw [hc, hd])
        simp [pieces, hc, hd, hcurrent]
      · simp [pieces, hc, hd, hpieces]

theorem pieces_dot_slash (rest : List Char) : pieces ('.' :: '/' :: rest) = ['.'] :: pieces rest :=
  pieces_append_slash ['.'] rest

theorem named_cons_of_isIdle {p : List Char} (h : isIdle p = true) (ps : List (List Char)) :
    named (p :: ps) = named ps := by
  rw [named, List.filter_cons_of_neg (by simp [h])]
  rfl

/-- What is left of a path behind its start has the names of all of it. -/
theorem components_eq_splitStart (path : List Char) :
    components path = beginning path ++ named (pieces (splitStart path).2) := by
  rcases splitStart_cases path with ⟨rest, rfl, hsplit⟩ | ⟨rfl, hsplit⟩ | ⟨rest, rfl, hsplit⟩ | ⟨-, hsplit⟩
  · rw [hsplit, components, pieces_slash, named_cons_of_isIdle rfl]
  · rfl
  · rw [hsplit, components, pieces_dot_slash, pieces_slash, named_cons_of_isIdle rfl, named_cons_of_isIdle rfl]
  · rw [hsplit, components]

theorem beginning_slash (rest : List Char) : beginning ('/' :: rest) = [.root] := if_pos rfl

theorem beginning_dot_slash (rest : List Char) : beginning ('.' :: '/' :: rest) = [.current] := by
  rw [beginning, pieces_dot_slash]
  rfl

theorem joinPieces_nil_cons {ps : List (List Char)} (hne : ps ≠ []) : joinPieces ([] :: ps) = '/' :: joinPieces ps := by
  cases ps with
  | nil => exact absurd rfl hne
  | cons p ps => rfl

/-- The start of a path with some of its pieces behind it has the beginning of the path, and the names of these. -/
theorem components_start_append {front : List (List Char)} {last : List Char}
    (hstarts : front ++ [last] <+: pieces (splitStart path).2) (hlast : isIdle last = false) :
    components ((splitStart path).1 ++ joinPieces (dropIdle front)) = beginning path ++ named front := by
  have hkept : dropIdle front <+: pieces (splitStart path).2 :=
    (dropIdle_prefix_self front).trans ((List.prefix_append front [last]).trans hstarts)
  have hfree : ∀ p ∈ dropIdle front, '/' ∉ p := fun p hp => notMem_of_mem_pieces (hkept.subset hp)
  rw [← named_dropIdle front]
  rcases splitStart_cases path with ⟨rest, rfl, hsplit⟩ | ⟨rfl, hsplit⟩ | ⟨rest, rfl, hsplit⟩ | ⟨hbeginning, hsplit⟩
  · rw [hsplit, List.singleton_append, components, beginning_slash, beginning_slash, pieces_slash,
      named_cons_of_isIdle rfl, named_pieces_joinPieces hfree]
  · rw [hsplit] at hstarts
    have hmem : last ∈ [[]] := hstarts.subset (List.mem_append_right front List.mem_cons_self)
    rw [List.mem_singleton.1 hmem] at hlast
    cases hlast
  · -- A slash follows the dot only if pieces are left.
    rw [hsplit, pieces_slash] at hkept
    rw [hsplit, beginning_dot_slash]
    rcases dropIdle_cases front with ⟨hdrop, -⟩ | ⟨qs, q, hdrop, -, hq, -⟩
    · rw [hdrop]
      rfl
    · rw [hdrop] at hkept hfree ⊢
      cases qs with
      | nil =>
        rw [(List.cons_prefix_cons.1 hkept).1] at hq
        cases hq
      | cons p qs =>
        obtain ⟨rfl, -⟩ := List.cons_prefix_cons.1 hkept
        have hne : qs ++ [q] ≠ [] := List.append_ne_nil_of_right_ne_nil _ (List.cons_ne_nil q [])
        have hqs : ∀ p ∈ qs ++ [q], '/' ∉ p := (List.forall_mem_cons.1 hfree).2
        rw [List.cons_append (a := []), joinPieces_nil_cons hne, List.singleton_append, components, beginning_dot_slash,
          pieces_dot_slash, named_cons_of_isIdle rfl, named_cons_of_isIdle rfl, named_pieces_joinPieces hqs]
  · rw [hsplit] at hkept ⊢
    rw [List.nil_append, components_eq, hbeginning, named_pieces_joinPieces hfree]
    congr 1
    rcases dropIdle_cases front with ⟨hdrop, -⟩ | ⟨qs, q, hdrop, -, hq, -⟩
    · rw [hdrop]
      rfl
    · rw [hdrop] at hkept hfree ⊢
      have hne : qs ++ [q] ≠ [] := List.append_ne_nil_of_right_ne_nil _ (List.cons_ne_nil q [])
      have hempty : qs ++ [q] ≠ [[]] := by
        intro hempty
        obtain ⟨-, hlast⟩ : qs = [] ∧ [q] = [[]] := List.append_inj' hempty rfl
        rw [List.singleton_inj.1 hlast] at hq
        cases hq
      obtain ⟨others, hothers⟩ := hkept
      rw [pieces_joinPieces hfree hne, ← beginningOf_append hne hempty others, hothers, ← beginning_eq, hbeginning]

theorem cut?_of_dropIdle_nil (h : dropIdle (pieces (splitStart path).2) = []) : cut? path = none := by
  simp [cut?, h]

theorem cut?_of_dropIdle_concat {front : List (List Char)} {last : List Char}
    (h : dropIdle (pieces (splitStart path).2) = front ++ [last]) :
    cut? path = some ⟨(splitStart path).1 ++ joinPieces (dropIdle front), last⟩ := by
  simp [cut?, h]

/-- Cutting takes the last component off. -/
theorem components_of_cut? {cut : Cut} (h : cut? path = some cut) :
    components path = components cut.parent ++ [.ofPiece cut.last] ∧ isIdle cut.last = false ∧ '/' ∉ cut.last := by
  rcases dropIdle_cases (pieces (splitStart path).2) with ⟨hdrop, -⟩ | ⟨front, last, hdrop, hstarts, hlast, hnamed⟩
  · rw [cut?_of_dropIdle_nil hdrop] at h
    cases h
  · rw [cut?_of_dropIdle_concat hdrop] at h
    obtain rfl := Option.some.inj h
    refine ⟨?_, hlast, ?_⟩
    · rw [components_start_append hstarts hlast, components_eq_splitStart, hnamed, List.append_assoc]
    · exact notMem_of_mem_pieces (hstarts.subset (List.mem_append_right _ List.mem_cons_self))

/-- A path that cannot be cut has nothing behind its beginning. -/
theorem components_of_cut?_eq_none (h : cut? path = none) : components path = beginning path := by
  rcases dropIdle_cases (pieces (splitStart path).2) with ⟨-, hnamed⟩ | ⟨front, last, hdrop, -⟩
  · rw [components_eq_splitStart, hnamed, List.append_nil]
  · rw [cut?_of_dropIdle_concat hdrop] at h
    cases h

/-! ### What is above -/

variable {parent front : List Char}

theorem beginning_cases (path : List Char) :
    beginning path = [.root] ∨ beginning path = [.current] ∨ beginning path = [] := by
  rw [beginning]
  split
  · exact .inl rfl
  · split
    · exact .inr (.inl rfl)
    · exact .inr (.inr rfl)

theorem Component.ofPiece_ne_root (piece : List Char) : ofPiece piece ≠ root := by
  rw [ofPiece]
  split <;> simp

theorem beginning_eq_root_iff : beginning path = [.root] ↔ (components path).head? = some .root := by
  rcases beginning_cases path with h | h | h
  · simp [components, h]
  · simp [components, h]
  · rw [components, h, List.nil_append, named, List.head?_map]
    simp [Component.ofPiece_ne_root]

theorem beginning_of_splitStart (h : (splitStart path).1 = ['.']) : beginning path = [.current] := by
  rcases splitStart_cases path with ⟨rest, rfl, hsplit⟩ | ⟨rfl, -⟩ | ⟨rest, rfl, -⟩ | ⟨-, hsplit⟩
  · rw [hsplit] at h
    cases h
  · rfl
  · exact beginning_dot_slash rest
  · rw [hsplit] at h
    cases h

/-- What is above a path has one component less. -/
theorem components_of_parent? (h : parent? path = some parent) :
    ∃ c, c ≠ .root ∧ components path = components parent ++ [c] := by
  rw [parent?] at h
  split at h
  · rename_i cut hcut
    obtain rfl := Option.some.inj h
    exact ⟨_, Component.ofPiece_ne_root cut.last, (components_of_cut? hcut).1⟩
  · rename_i hcut
    split at h
    · rename_i hdot
      obtain rfl := Option.some.inj h
      exact ⟨.current, by simp, (components_of_cut?_eq_none hcut).trans (beginning_of_splitStart hdot)⟩
    · cases h

/-- There is nothing above the root and the empty path. -/
theorem components_of_parent?_eq_none (h : parent? path = none) :
    components path = beginning path ∧ (beginning path = [.root] ∨ beginning path = []) := by
  rw [parent?] at h
  split at h
  · cases h
  · rename_i hcut
    split at h
    · cases h
    · rename_i hdot
      refine ⟨components_of_cut?_eq_none hcut, ?_⟩
      rcases splitStart_cases path with ⟨rest, rfl, -⟩ | ⟨rfl, -⟩ | ⟨rest, rfl, hsplit⟩ | ⟨hbeginning, -⟩
      · exact .inl (beginning_slash rest)
      · exact absurd rfl hdot
      · rw [hsplit] at hdot
        exact absurd rfl hdot
      · exact .inr hbeginning

/-- A path and all that is above it, the nearest first. -/
def upwards (path : List Char) : List (List Char) :=
  path :: match h : parent? path with
    | none => []
    | some parent =>
      have := length_lt_of_parent? h
      upwards parent
termination_by path.length

theorem upwards_of_none (h : parent? path = none) : upwards path = [path] := by
  rw [upwards]
  split
  · rfl
  · rename_i hsome
    cases h.symm.trans hsome

theorem upwards_of_some (h : parent? path = some parent) : upwards path = path :: upwards parent := by
  rw [upwards]
  split
  · rename_i hnone
    cases h.symm.trans hnone
  · rename_i hsome
    rw [Option.some.inj (h.symm.trans hsome)]

/-- What holds at the top and comes down from what is above holds of every path. -/
theorem above_induction {motive : List Char → Prop} (top : ∀ path, parent? path = none → motive path)
    (below : ∀ path parent, parent? path = some parent → motive parent → motive path) (path : List Char) :
    motive path := by
  match h : parent? path with
  | none => exact top path h
  | some parent =>
    have := length_lt_of_parent? h
    exact below path parent h (above_induction top below parent)
termination_by path.length

theorem mem_upwards_self (path : List Char) : path ∈ upwards path := by
  rw [upwards]
  exact List.mem_cons_self

theorem components_prefix_of_mem_upwards {p : List Char} (hp : p ∈ upwards path) : components p <+: components path := by
  induction path using above_induction with
  | top path h =>
    rw [upwards_of_none h, List.mem_singleton] at hp
    exact hp ▸ List.prefix_rfl
  | below path parent h ih =>
    obtain ⟨c, -, hc⟩ := components_of_parent? h
    rw [upwards_of_some h, List.mem_cons] at hp
    rcases hp with rfl | hp
    · exact List.prefix_rfl
    · exact (ih hp).trans (hc ▸ List.prefix_append _ _)

/-- What lies above a path is what its components begin with. The way up from a slash ends at the root, and from any
other path it ends at the empty one. -/
theorem exists_mem_upwards_iff {cs : List Component} : (∃ p ∈ upwards path, components p = cs) ↔
    cs <+: components path ∧ (cs = [] → beginning path ≠ [.root]) := by
  induction path using above_induction with
  | top path h =>
    obtain ⟨hcomponents, hbeginning⟩ := components_of_parent?_eq_none h
    rw [upwards_of_none h, hcomponents]
    rcases hbeginning with hroot | hempty
    · have hstart : cs <+: [.root] ↔ cs = [] ∨ cs = [.root] := by
        rw [← List.nil_append [Component.root], List.prefix_concat_iff, List.prefix_nil, or_comm]
      rw [hroot, hstart]
      simp only [List.mem_singleton, exists_eq_left, hcomponents, hroot]
      constructor
      · rintro rfl
        exact ⟨.inr rfl, by simp⟩
      · rintro ⟨rfl | rfl, hopen⟩
        · exact absurd rfl (hopen rfl)
        · rfl
    · simp [hcomponents, hempty, eq_comm]
  | below path parent h ih =>
    obtain ⟨c, hc, hcomponents⟩ := components_of_parent? h
    have hroot : beginning path = [.root] ↔ beginning parent = [.root] := by
      rw [beginning_eq_root_iff, beginning_eq_root_iff, hcomponents]
      cases components parent with
      | nil => simp [hc]
      | cons d ds => rfl
    rw [upwards_of_some h, List.exists_mem_cons_iff, ih, ne_eq, ne_eq, hroot, hcomponents, List.prefix_concat_iff]
    constructor
    · rintro (rfl | ⟨hstarts, hopen⟩)
      · exact ⟨.inl rfl, by simp⟩
      · exact ⟨.inr hstarts, hopen⟩
    · rintro ⟨rfl | hstarts, hopen⟩
      · exact .inl rfl
      · exact .inr ⟨hstarts, hopen⟩

/-! ### File names -/

/-- A path has a file name if it can be cut and what is cut off is not the directory above. -/
theorem fileName?_of_cut? {cut : Cut} (h : cut? path = some cut) :
    fileName? path = if cut.last = ['.', '.'] then none else some cut.last := by
  rw [fileName?, (components_of_cut? h).1, List.getLast?_concat, Option.bind_some, Component.name?_ofPiece]

theorem fileName?_of_cut?_eq_none (h : cut? path = none) : fileName? path = none := by
  rw [fileName?, components_of_cut?_eq_none h, Option.bind_eq_none_iff]
  exact fun c hc => name?_of_mem_beginning (List.mem_of_getLast? hc)

/-- A name that is joined to a path is its file name. -/
theorem fileName?_join (hslash : '/' ∉ name) (hidle : isIdle name = false) (hup : name ≠ ['.', '.']) :
    fileName? (join path name) = some name := by
  rw [fileName?, components_join hslash hidle, List.getLast?_concat, Option.bind_some, Component.name?_ofPiece,
    if_neg hup]

end BundleCheck.Path
