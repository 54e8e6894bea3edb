import BundleCheck.Proofs.Files.Components
import BundleCheck.Run.Loading

/-!
# Directories and their entries

A tree as such is a list of places, and nothing keeps a place in it from lying behind a file or having a slash in its
name. In a tree that is well formed every place has names and lies in a directory. There the path of an entry leads to
what stands at its place, whatever the current directory is. Only paths that are too long lead nowhere, so what lies too
deep in the tree is there for nobody.
-/

namespace BundleCheck

namespace Path

variable {ps : List (List Char)} {p : List Char}

theorem joinPieces_cons (hne : ps ≠ []) (p : List Char) : joinPieces (p :: ps) = p ++ '/' :: joinPieces ps := by
  cases ps with
  | nil => exact absurd rfl hne
  | cons q ps => rfl

theorem joinPieces_concat (hne : ps ≠ []) (p : List Char) : joinPieces (ps ++ [p]) = joinPieces ps ++ '/' :: p := by
  induction ps with
  | nil => exact absurd rfl hne
  | cons q ps ih =>
    by_cases hps : ps = []
    · rw [hps]
      rfl
    · rw [List.cons_append, joinPieces_cons (by simp), ih hps, joinPieces_cons hps, List.append_assoc, List.cons_append]

theorem joinPieces_eq_intercalate (ps : List (List Char)) : joinPieces ps = ['/'].intercalate ps := by
  induction ps with
  | nil => rfl
  | cons p ps ih =>
    cases ps with
    | nil => simp [joinPieces]
    | cons q ps =>
      rw [joinPieces_cons (by simp), ih, List.intercalate_cons_cons, List.append_assoc, List.singleton_append]

theorem mem_joinPieces {c : Char} (h : c ∈ joinPieces ps) : c = '/' ∨ ∃ p ∈ ps, c ∈ p := by
  induction ps with
  | nil => cases h
  | cons p ps ih =>
    by_cases hps : ps = []
    · rw [hps] at h
      exact .inr ⟨p, List.mem_cons_self, h⟩
    · rw [joinPieces_cons hps, List.mem_append, List.mem_cons] at h
      obtain hp | hc | hrest := h
      · exact .inr ⟨p, List.mem_cons_self, hp⟩
      · exact .inl hc
      · obtain hc | ⟨q, hq, hmem⟩ := ih hrest
        · exact .inl hc
        · exact .inr ⟨q, List.mem_cons_of_mem p hq, hmem⟩

end Path

namespace Tree

/-- The names that something in a directory can have. -/
def IsName (name : String) : Prop :=
  name ≠ "" ∧ name ≠ "." ∧ name ≠ ".." ∧ '/' ∉ name.toList ∧ '\x00' ∉ name.toList ∧ name.utf8ByteSize ≤ maxName

instance : DecidablePred IsName := fun _ => inferInstanceAs (Decidable (_ ∧ _ ∧ _ ∧ _ ∧ _ ∧ _))

/-- Everything in the tree has names and lies in a directory. -/
def WellFormed (t : Tree) : Prop := ∀ p ∈ t.nodes, (∀ name ∈ p.1, IsName name) ∧ t.node? p.1.parent = some .directory

instance (t : Tree) : Decidable t.WellFormed := inferInstanceAs (Decidable (∀ p ∈ t.nodes, _ ∧ _))

/-- There is something of that name in the directory, and a path for it. -/
def Holds (t : Tree) (d : Location) (name : String) : Prop :=
  (t.node? (d ++ [name])).isSome ∧ (d.entry name).utf8ByteSize ≤ maxPath

instance (t : Tree) (d : Location) (name : String) : Decidable (t.Holds d name) :=
  inferInstanceAs (Decidable (_ ∧ _))

variable {t : Tree} {current d l : Location} {name : String} {n : Node}

theorem mem_nodes_of_node? (hl : l ≠ []) (h : t.node? l = some n) : (l, n) ∈ t.nodes := by
  rw [node?, if_neg hl, List.lookup_eq_some_iff] at h
  obtain ⟨before, after, hnodes, -⟩ := h
  simp [hnodes]

namespace WellFormed

theorem isName (ht : t.WellFormed) (h : t.node? l = some n) : ∀ name ∈ l, IsName name := by
  by_cases hl : l = []
  · simp [hl]
  · exact (ht _ (mem_nodes_of_node? hl h)).1

theorem directory_of_concat (ht : t.WellFormed) (h : t.node? (d ++ [name]) = some n) : t.node? d = some .directory := by
  have hparent := (ht _ (mem_nodes_of_node? (by simp) h)).2
  rwa [Location.parent, List.dropLast_concat] at hparent

theorem directory_above (ht : t.WellFormed) (hl : t.node? l = some .directory) (hd : d <+: l) :
    t.node? d = some .directory := by
  obtain ⟨names, rfl⟩ := hd
  induction names using List.reverseRecOn with
  | nil => rwa [List.append_nil] at hl
  | append_singleton names name ih =>
    rw [← List.append_assoc] at hl
    exact ih (ht.directory_of_concat hl)

end WellFormed

/-! ### The path of an entry -/

theorem toList_path (d : Location) : d.path.toList = '/' :: Path.joinPieces (d.map String.toList) := by
  simp [Location.path, Path.joinPieces_eq_intercalate]

theorem joinPieces_names (hne : d ≠ []) (name : String) :
    Path.joinPieces ((d ++ [name]).map String.toList) = Path.joinPieces (d.map String.toList) ++ '/' :: name.toList := by
  rw [List.map_append, List.map_singleton, Path.joinPieces_concat (by simpa using hne)]

theorem toList_entry (hd : ∀ n ∈ d, IsName n) :
    (d.entry name).toList = '/' :: Path.joinPieces ((d ++ [name]).map String.toList) := by
  rw [Location.entry, Path.entry, String.toList_ofList, toList_path]
  cases d using List.reverseRecOn with
  | nil => simp [Path.join, Path.joinPieces]
  | append_singleton front last =>
    obtain ⟨hempty, -, -, hslash, -⟩ := hd last (by simp)
    have hlast : last.toList ≠ [] := mt String.toList_eq_nil_iff.1 hempty
    obtain ⟨c, hc⟩ := Option.ne_none_iff_exists'.1 (mt List.getLast?_eq_none_iff.1 hlast)
    have hne : c ≠ '/' := fun h => hslash (h ▸ List.mem_of_getLast? hc)
    have hend : ('/' :: Path.joinPieces ((front ++ [last]).map String.toList)).getLast? = some c := by
      cases front with
      | nil => simp [Path.joinPieces, List.getLast?_cons, hc]
      | cons name front =>
        rw [joinPieces_names (by simp)]
        simp [List.getLast?_append, List.getLast?_cons, hc]
    have hopen : front ++ [last] ≠ [] := by simp
    simp only [Path.join, hend, if_neg hne]
    rw [joinPieces_names hopen, List.cons_append]

theorem IsName.isIdle_toList (hname : IsName name) : Path.isIdle name.toList = false := by
  have hempty : name.toList ≠ [] := mt String.toList_eq_nil_iff.1 hname.1
  have hdot : name.toList ≠ ['.'] := fun h => hname.2.1 (String.toList_injective h)
  simp [Path.isIdle, hempty, hdot]

theorem pieces_names (hl : ∀ n ∈ l, IsName n) (hne : l ≠ []) :
    Path.pieces (Path.joinPieces (l.map String.toList)) = l.map String.toList := by
  refine Path.pieces_joinPieces (fun p hp => ?_) (by simpa using hne)
  obtain ⟨n, hn, rfl⟩ := List.mem_map.1 hp
  exact (hl n hn).2.2.2.1

/-- Cutting the path of a directory leaves the path of the directory above. -/
theorem parent?_path_concat (hl : ∀ n ∈ l ++ [name], IsName n) :
    Path.parent? (Location.path (l ++ [name])).toList = some l.path.toList := by
  obtain ⟨hfront, hname⟩ := List.forall_mem_append.1 hl
  have hopen : l ++ [name] ≠ [] := by simp
  have hdrop : Path.dropIdle (Path.pieces (Path.splitStart (Location.path (l ++ [name])).toList).2) =
      l.map String.toList ++ [name.toList] := by
    rw [toList_path, Path.splitStart, pieces_names hl hopen, List.map_append, List.map_singleton,
      Path.dropIdle_concat, (List.forall_mem_singleton.1 hname).isIdle_toList, if_neg Bool.false_ne_true]
  have hkept : Path.dropIdle (l.map String.toList) = l.map String.toList := by
    cases l using List.reverseRecOn with
    | nil => rfl
    | append_singleton front last =>
      rw [List.map_append, List.map_singleton, Path.dropIdle_concat, (hfront last (by simp)).isIdle_toList,
        if_neg Bool.false_ne_true]
  rw [Path.parent?, Path.cut?_of_dropIdle_concat hdrop, hkept, toList_path l, toList_path, Path.splitStart]
  rfl

theorem parent?_path_nil : Path.parent? (Location.path []).toList = none := by decide +kernel

/-- The way up from a directory leads over the directories above it. -/
theorem mem_upwards_path_iff (hl : ∀ n ∈ l, IsName n) {path : List Char} :
    path ∈ Path.upwards l.path.toList ↔ ∃ d : Location, d <+: l ∧ path = d.path.toList := by
  induction l using List.reverseRecOn with
  | nil =>
    rw [Path.upwards_of_none parent?_path_nil, List.mem_singleton]
    simp
  | append_singleton front last ih =>
    rw [Path.upwards_of_some (parent?_path_concat hl), List.mem_cons, ih (List.forall_mem_append.1 hl).1]
    simp only [List.prefix_concat_iff, or_and_right, exists_or, exists_eq_left]

theorem length_upwards_path (hl : ∀ n ∈ l, IsName n) : (Path.upwards l.path.toList).length = l.length + 1 := by
  induction l using List.reverseRecOn with
  | nil =>
    rw [Path.upwards_of_none parent?_path_nil]
    rfl
  | append_singleton front last ih =>
    rw [Path.upwards_of_some (parent?_path_concat hl), List.length_cons, ih (List.forall_mem_append.1 hl).1,
      List.length_append]
    rfl

theorem length_components_path (hl : ∀ n ∈ l, IsName n) : (Path.components l.path.toList).length = l.length + 1 := by
  induction l using List.reverseRecOn with
  | nil => rfl
  | append_singleton front last ih =>
    obtain ⟨c, -, hc⟩ := Path.components_of_parent? (parent?_path_concat hl)
    rw [hc, List.length_append, ih (List.forall_mem_append.1 hl).1, List.length_append]
    rfl

theorem entry_nil (name : String) : Location.entry [] name = "/" ++ name := by
  apply String.toList_injective
  rw [toList_entry (by simp), String.toList_append]
  rfl

theorem entry_concat {last : String} (hl : ∀ n ∈ l ++ [last], IsName n) (name : String) :
    Location.entry (l ++ [last]) name = l.entry last ++ "/" ++ name := by
  have hopen : l ++ [last] ≠ [] := by simp
  apply String.toList_injective
  rw [toList_entry hl, joinPieces_names hopen, String.toList_append, String.toList_append,
    toList_entry (List.forall_mem_append.1 hl).1, List.append_assoc]
  rfl

/-- How long the path of an entry is depends on the directory and on the length of the name. -/
theorem exists_size_entry (hd : ∀ n ∈ d, IsName n) :
    ∃ size, ∀ name, (d.entry name).utf8ByteSize = size + name.utf8ByteSize := by
  cases d using List.reverseRecOn with
  | nil =>
    refine ⟨"/".utf8ByteSize, fun name => ?_⟩
    rw [entry_nil, String.utf8ByteSize_append]
  | append_singleton front last =>
    refine ⟨(Location.entry front last ++ "/").utf8ByteSize, fun name => ?_⟩
    rw [entry_concat hd, String.utf8ByteSize_append]

theorem size_entry_le (hl : ∀ n ∈ l, IsName n) (hd : d <+: l) (name : String) :
    (d.entry name).utf8ByteSize ≤ (l.entry name).utf8ByteSize := by
  obtain ⟨names, rfl⟩ := hd
  induction names using List.reverseRecOn with
  | nil => simp
  | append_singleton names last ih =>
    rw [← List.append_assoc] at hl ⊢
    have hfront := (List.forall_mem_append.1 hl).1
    obtain ⟨size, hsize⟩ := exists_size_entry hfront
    have hshorter := ih hfront
    rw [hsize] at hshorter
    rw [entry_concat hl, String.utf8ByteSize_append, String.utf8ByteSize_append, hsize]
    omega

theorem holds_iff_isSome (hfits : (d.entry name).utf8ByteSize ≤ maxPath) :
    t.Holds d name ↔ (t.node? (d ++ [name])).isSome := and_iff_left hfits

theorem piecesOf_entry (hd : ∀ n ∈ d, IsName n) (hname : IsName name) (hfits : (d.entry name).utf8ByteSize ≤ maxPath) :
    piecesOf (d.entry name) = .ok ("" :: (d ++ [name])) := by
  have hnames : ∀ n ∈ d ++ [name], IsName n := by
    intro n hn
    rw [List.mem_append, List.mem_singleton] at hn
    obtain hn | rfl := hn
    · exact hd n hn
    · exact hname
  have hzero : '\x00' ∉ (d.entry name).toList := by
    rw [toList_entry hd, List.mem_cons, not_or]
    refine ⟨by decide, fun h => ?_⟩
    obtain hc | ⟨p, hp, hmem⟩ := Path.mem_joinPieces h
    · exact absurd hc (by decide)
    · obtain ⟨n, hn, rfl⟩ := List.mem_map.1 hp
      exact (hnames n hn).2.2.2.2.1 hmem
  have hpieces : Path.pieces (d.entry name).toList = [] :: (d ++ [name]).map String.toList := by
    rw [toList_entry hd, Path.pieces_slash, Path.pieces_joinPieces]
    · intro p hp
      obtain ⟨n, hn, rfl⟩ := List.mem_map.1 hp
      exact (hnames n hn).2.2.2.1
    · simp
  have hopen : (d.entry name).toList.isEmpty = false := by simp [toList_entry hd]
  have hback : (String.ofList ∘ String.toList) = id := funext fun s => String.ofList_toList
  simp only [piecesOf]
  rw [if_neg (by simpa using hzero), hopen, if_neg Bool.false_ne_true, if_neg (by omega), hpieces, List.map_cons,
    List.map_map, hback, List.map_id]

/-! ### Following names -/

theorem follow_name (hname : IsName name) (rest : List String) :
    t.follow l .directory (name :: rest) =
      match t.node? (l ++ [name]) with
      | some next => t.follow (l ++ [name]) next rest
      | none => if rest.all (· = "") then .ok (.vacant (l ++ [name])) else .error .notFound := by
  obtain ⟨hempty, hdot, hup, -, -, hsize⟩ := hname
  rw [follow, if_neg (by simp), if_neg (by simp [hempty, hdot]), if_neg hup]
  exact if_neg (by omega)

theorem follow_directories {names : List String} (hnames : ∀ n ∈ names, IsName n)
    (hdirectory : ∀ ns, ns <+: names → t.node? (l ++ ns) = some .directory) (rest : List String) :
    t.follow l .directory (names ++ rest) = t.follow (l ++ names) .directory rest := by
  induction names generalizing l with
  | nil => rw [List.nil_append, List.append_nil]
  | cons name names ih =>
    obtain ⟨hname, hnames⟩ := List.forall_mem_cons.1 hnames
    have hnext : t.node? (l ++ [name]) = some .directory := hdirectory [name] (by simp)
    rw [List.cons_append, follow_name hname, hnext]
    have hbehind : ∀ ns, ns <+: names → t.node? (l ++ [name] ++ ns) = some .directory := by
      intro ns hns
      rw [List.append_assoc]
      exact hdirectory (name :: ns) (List.cons_prefix_cons.2 ⟨rfl, hns⟩)
    have hrest := ih hnames hbehind
    rwa [List.append_assoc, List.singleton_append] at hrest

theorem WellFormed.resolve_entry (ht : t.WellFormed) (hd : t.node? d = some .directory) (hname : IsName name)
    (hfits : (d.entry name).utf8ByteSize ≤ maxPath) :
    t.resolve current (d.entry name) = t.follow d .directory [name] := by
  have hdirectories : ∀ ns, ns <+: d → t.node? ([] ++ ns) = some .directory := fun ns hns => ht.directory_above hd hns
  have hfollow : t.follow [] .directory ("" :: (d ++ [name])) = t.follow d .directory [name] := by
    rw [follow, if_neg (by simp), if_pos (.inl rfl)]
    exact follow_directories (ht.isName hd) hdirectories [name]
  rw [resolve, piecesOf_entry (ht.isName hd) hname hfits]
  exact hfollow

theorem exists_resolve_error (hlong : ¬ (d.entry name).utf8ByteSize ≤ maxPath) :
    ∃ e, t.resolve current (d.entry name) = .error e := by
  have hpieces : ∃ e, piecesOf (d.entry name) = .error e := by
    simp only [piecesOf]
    split
    · exact ⟨_, rfl⟩
    · split
      · exact ⟨_, rfl⟩
      · exact ⟨_, if_pos (by omega)⟩
  obtain ⟨e, he⟩ := hpieces
  refine ⟨e, ?_⟩
  rw [resolve, he]
  rfl

/-- An entry of a directory is found under its path. -/
theorem WellFormed.isPresent_entry_iff (ht : t.WellFormed) (hd : t.node? d = some .directory) (hname : IsName name) :
    t.isPresent current (d.entry name) = true ↔ t.Holds d name := by
  rw [Holds, isPresent]
  by_cases hfits : (d.entry name).utf8ByteSize ≤ maxPath
  · rw [ht.resolve_entry hd hname hfits, follow_name hname]
    cases t.node? (d ++ [name]) with
    | some n => simp [follow, hfits]
    | none => simp
  · obtain ⟨e, he⟩ : ∃ e, t.resolve current (d.entry name) = .error e := exists_resolve_error hfits
    simp [he, hfits]

end Tree

end BundleCheck
