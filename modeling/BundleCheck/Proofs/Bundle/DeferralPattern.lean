import BundleCheck.Proofs.Bundle.Deferral
import BundleCheck.Proofs.Pattern.Capture
import BundleCheck.Proofs.Pattern.Footprint
import BundleCheck.Proofs.Pattern.Reading

/-!
# The pattern of deferred entries

The written form of the pattern holds the deferral marker with its special characters escaped, so it is read to a
pattern in which the marker stands as a word, whatever the marker is. The only fault that there can be is that this
pattern is too large. What its group takes is the key, and there is just one way to take it, so the search that
goes over the line once finds what the pattern captures.
-/

namespace BundleCheck.Deferral

open Pattern Pattern.Cursor
open Unicode (isWhiteSpace)

/-! ### Sets of characters -/

def markerChars : CharSet := ⟨[33, 34, 35, 36], by decide⟩

def separatorChars : CharSet := ⟨[58, 59, 61, 62], by decide⟩

/-- Neither white space nor separators. -/
def keyChars : CharSet :=
  ⟨[0, 9, 14, 32, 33, 58, 59, 61, 62, 133, 134, 160, 161, 5760, 5761, 8192, 8203, 8232, 8234, 8239, 8240, 8287, 8288,
    12288, 12289], by decide⟩

theorem ofSet_markerChars : Expression.ofSet (.ofList [.single '#', .single '!']) = .one markerChars := by
  decide +kernel

theorem ofSet_separatorChars : Expression.ofSet (.ofList [.single '=', .single ':']) = .one separatorChars := by
  decide +kernel

theorem ofSet_keyChars :
    Expression.ofSet (CharSet.ofList [Property.whiteSpaceChars, .single '=', .single ':']).complement =
      .one keyChars := by
  decide +kernel

theorem ofSet_whiteSpaceChars : Expression.ofSet Property.whiteSpaceChars = .one Property.whiteSpaceChars := by
  decide +kernel

theorem contains_markerChars {c : Char} : markerChars.contains c = true ↔ isCommentMarker c = true := by
  have hranges : markerChars.ranges = [(33, 33), (35, 35)] := rfl
  rw [CharSet.contains_iff, hranges, isCommentMarker_iff, ← Char.toNat_inj, ← Char.toNat_inj]
  simp only [List.mem_cons, List.not_mem_nil, or_false, exists_eq_or_imp, exists_eq_left, Char.reduceToNat]
  omega

theorem contains_separatorChars {c : Char} : separatorChars.contains c = true ↔ isSeparator c = true := by
  have hranges : separatorChars.ranges = [(58, 58), (61, 61)] := rfl
  rw [CharSet.contains_iff, hranges, Separation.isSeparator_iff, ← Char.toNat_inj, ← Char.toNat_inj]
  simp only [List.mem_cons, List.not_mem_nil, or_false, exists_eq_or_imp, exists_eq_left, Char.reduceToNat]
  omega

theorem isWhiteSpace_iff {c : Char} : isWhiteSpace c = true ↔
    9 ≤ c.toNat ∧ c.toNat ≤ 13 ∨ c.toNat = 32 ∨ c.toNat = 133 ∨ c.toNat = 160 ∨ c.toNat = 5760 ∨
      8192 ≤ c.toNat ∧ c.toNat ≤ 8202 ∨ c.toNat = 8232 ∨ c.toNat = 8233 ∨ c.toNat = 8239 ∨ c.toNat = 8287 ∨
        c.toNat = 12288 := by
  simp only [isWhiteSpace, Bool.or_eq_true, Bool.and_eq_true, decide_eq_true_eq, beq_iff_eq, or_assoc]

theorem contains_whiteSpaceChars {c : Char} :
    Property.whiteSpaceChars.contains c = true ↔ isWhiteSpace c = true := by
  have hranges : Property.whiteSpaceChars.ranges =
      [(9, 13), (32, 32), (133, 133), (160, 160), (5760, 5760), (8192, 8202), (8232, 8233), (8239, 8239),
        (8287, 8287), (12288, 12288)] := by decide +kernel
  rw [CharSet.contains_iff, hranges, isWhiteSpace_iff]
  simp only [List.mem_cons, List.not_mem_nil, or_false, exists_eq_or_imp, exists_eq_left]
  omega

theorem contains_keyChars {c : Char} : keyChars.contains c = true ↔ isKeyChar c = true := by
  have hranges : keyChars.ranges =
      [(0, 8), (14, 31), (33, 57), (59, 60), (62, 132), (134, 159), (161, 5759), (5761, 8191), (8203, 8231),
        (8234, 8238), (8240, 8286), (8288, 12287), (12289, 0x10FFFF)] := by decide +kernel
  have hlt := CharSet.toNat_lt_codePoints c
  rw [CharSet.contains_iff, hranges, isKeyChar_iff, ← Bool.not_eq_true, isWhiteSpace_iff, ne_eq, ne_eq,
    ← Char.toNat_inj, ← Char.toNat_inj]
  simp only [List.mem_cons, List.not_mem_nil, or_false, exists_eq_or_imp, exists_eq_left, Char.reduceToNat]
  rw [CharSet.codePoints] at hlt
  omega

theorem contains_dot {c : Char} : (CharSet.dot false).contains c = true ↔ c ≠ '\n' := by
  have hranges : (CharSet.dot false).ranges = [(0, 9), (11, 0x10FFFF)] := by decide +kernel
  have hlt := CharSet.toNat_lt_codePoints c
  rw [CharSet.contains_iff, hranges, ne_eq, ← Char.toNat_inj]
  simp only [List.mem_cons, List.not_mem_nil, or_false, exists_eq_or_imp, exists_eq_left, Char.reduceToNat]
  rw [CharSet.codePoints] at hlt
  omega

/-! ### The pattern as it is read -/

def spaces : Expression := .repeated true 0 none (.one Property.whiteSpaceChars)

def keyPattern : Expression := .repeated true 1 none (.one keyChars)

/-- The parts before the key. -/
def partsBefore (marker : List Char) : List Expression :=
  .at .textStart :: .one markerChars :: spaces :: (Expression.wordParts marker ++ [spaces])

/-- The parts behind the key. -/
def partsBehind : List Expression :=
  [spaces, .one separatorChars, .repeated true 0 none (.one (.dot false)), .at .textEnd]

def expression (marker : List Char) : Expression :=
  .ofParts (partsBefore marker ++ .group keyGroup keyPattern :: partsBehind)

section Reading

open Progress

variable {p : Progress} {rest : List Char}

theorem reaches_anchor (hp : IsPlain p) : p.Reaches ('^' :: rest) (p.add (.flat (.at .textStart))) rest := by
  refine reaches_of_read [] ?_
  simp only [Progress.read, show p.group.flags = {} from hp]
  rfl

theorem reaches_end (hp : IsPlain p) : p.Reaches ('$' :: rest) (p.add (.flat (.at .textEnd))) rest := by
  refine reaches_of_read [] ?_
  simp only [Progress.read, show p.group.flags = {} from hp]
  rfl

theorem reaches_dot (hp : IsPlain p) : p.Reaches ('.' :: rest) (p.add (.flat (.one (.dot false)))) rest := by
  refine reaches_of_read [] ?_
  simp only [Progress.read, show p.group.flags = {} from hp]
  rfl

theorem reaches_space (hp : IsPlain p) :
    p.Reaches ('\\' :: 's' :: rest) (p.add (.flat (.one Property.whiteSpaceChars))) rest := by
  refine reaches_of_read ['s'] ?_
  rw [← ofSet_whiteSpaceChars]
  simp only [Progress.read, show p.group.flags = {} from hp]
  rfl

theorem reaches_markerSet (hp : IsPlain p) :
    p.Reaches ('[' :: '#' :: '!' :: ']' :: rest) (p.add ⟨2, .one markerChars⟩) rest := by
  refine reaches_of_read ['#', '!', ']'] ?_
  rw [← ofSet_markerChars]
  simp only [Progress.read, show p.group.flags = {} from hp]
  rfl

theorem reaches_separatorSet (hp : IsPlain p) :
    p.Reaches ('[' :: '=' :: ':' :: ']' :: rest) (p.add ⟨2, .one separatorChars⟩) rest := by
  refine reaches_of_read ['=', ':', ']'] ?_
  rw [← ofSet_separatorChars]
  simp only [Progress.read, show p.group.flags = {} from hp]
  rfl

theorem reaches_keySet (hp : IsPlain p) :
    p.Reaches ('[' :: '^' :: '\\' :: 's' :: '=' :: ':' :: ']' :: rest) (p.add ⟨2, .one keyChars⟩) rest := by
  refine reaches_of_read ['^', '\\', 's', '=', ':', ']'] ?_
  rw [← ofSet_keyChars]
  simp only [Progress.read, show p.group.flags = {} from hp]
  rfl

/-- A greedy repetition, which no question mark follows. -/
theorem reaches_repetition (hp : IsPlain p) {mark : Char} {low : Nat} (hmark : mark = '*' ∧ low = 0 ∨ mark = '+' ∧ low = 1)
    (hrest : rest.head? ≠ some '?') (a : Nested Expression) :
    (p.add a).Reaches (mark :: rest) (p.add ⟨a.depth + 1, .repetition true low none a.value⟩) rest := by
  have hgreed : readGreed {} rest = (true, rest) := by
    unfold readGreed
    split
    · exact absurd rfl hrest
    · rfl
  refine reaches_of_read [] ?_
  rcases hmark with ⟨rfl, rfl⟩ | ⟨rfl, rfl⟩ <;>
  · simp only [Progress.read, show (p.add a).group.flags = {} from hp, List.nil_append, hgreed]
    rfl

theorem reaches_spaces (hp : IsPlain p) (hrest : rest.head? ≠ some '?') :
    p.Reaches ('\\' :: 's' :: '*' :: rest) (p.add ⟨1, spaces⟩) rest :=
  (reaches_space hp).trans (reaches_repetition hp (.inl ⟨rfl, rfl⟩) hrest _)

/-! ### The group -/

theorem reaches_group (hp : IsPlain p) (hnumbered : p.numbered = 0) :
    p.Reaches ('(' :: '[' :: '^' :: '\\' :: 's' :: '=' :: ':' :: ']' :: '+' :: ')' :: rest)
      { p.add ⟨4, .group keyGroup keyPattern⟩ with numbered := 1 } rest := by
  have hopen : p.Reaches ('(' :: '[' :: '^' :: '\\' :: 's' :: '=' :: ':' :: ']' :: '+' :: ')' :: rest)
      p.enterNumbered ('[' :: '^' :: '\\' :: 's' :: '=' :: ':' :: ']' :: '+' :: ')' :: rest) := by
    refine reaches_of_read [] ?_
    simp only [Progress.read, Progress.openGroup, show p.group.flags = {} from hp]
    rfl
  have hinner : IsPlain p.enterNumbered := hp
  refine hopen.trans ((reaches_keySet hinner).trans ((reaches_repetition hinner (.inr ⟨rfl, rfl⟩) (by simp) _).trans ?_))
  refine reaches_of_read [] ?_
  obtain ⟨⟨flags, number, alternatives, parts⟩, outer, numbered, names⟩ := p
  obtain rfl : flags = {} := hp
  obtain rfl : numbered = 0 := hnumbered
  rfl

/-! ### The whole pattern -/

theorem toList_patternText (marker : String) : (patternText marker).toList =
    '^' :: '[' :: '#' :: '!' :: ']' :: '\\' :: 's' :: '*' :: (escape marker.toList ++
      '\\' :: 's' :: '*' :: '(' :: '[' :: '^' :: '\\' :: 's' :: '=' :: ':' :: ']' :: '+' :: ')' ::
        '\\' :: 's' :: '*' :: '[' :: '=' :: ':' :: ']' :: '.' :: '*' :: '$' :: []) := by
  simp [patternText, commentMarkers, Separator.all, Separator.char]

/-- The progress before the marker, and that before the key. -/
def beforeMarker : Progress :=
  (((⟨.start {} none, [], 0, []⟩ : Progress).add (.flat (.at .textStart))).add ⟨2, .one markerChars⟩).add ⟨1, spaces⟩

def beforeKey (marker : List Char) : Progress := (addChars beforeMarker marker).add ⟨1, spaces⟩

/-- The progress when all has been read. -/
def finished (marker : List Char) : Progress :=
  let behindKey : Progress := { (beforeKey marker).add ⟨4, .group keyGroup keyPattern⟩ with numbered := 1 }
  (((behindKey.add ⟨1, spaces⟩).add ⟨2, .one separatorChars⟩).add ⟨1, .repeated true 0 none (.one (.dot false))⟩).add
    (.flat (.at .textEnd))

theorem reaches_finished (marker : String) :
    Reaches ⟨.start {} none, [], 0, []⟩ (patternText marker).toList (finished marker.toList) [] := by
  have hstart : IsPlain ⟨.start {} none, [], 0, []⟩ := rfl
  have hmarker : IsPlain beforeMarker := rfl
  have hkey : IsPlain (beforeKey marker.toList) := rfl
  have hbehind : IsPlain { (beforeKey marker.toList).add ⟨4, .group keyGroup keyPattern⟩ with numbered := 1 } := rfl
  rw [toList_patternText]
  refine (reaches_anchor hstart).trans ((reaches_markerSet (hstart.add _)).trans ?_)
  refine (reaches_spaces ((hstart.add _).add _) (head?_escape_append _ (by simp))).trans ?_
  refine (reaches_escape hmarker _).trans ?_
  refine (reaches_spaces (p := addChars beforeMarker marker.toList) hmarker (by simp)).trans ?_
  refine (reaches_group hkey rfl).trans ((reaches_spaces hbehind (by simp)).trans ?_)
  refine (reaches_separatorSet (hbehind.add _)).trans ((reaches_dot ((hbehind.add _).add _)).trans ?_)
  have hend : ['$'].head? ≠ some '?' := by decide
  have hstar := reaches_repetition ((hbehind.add ⟨1, spaces⟩).add ⟨2, .one separatorChars⟩)
    (.inl ⟨rfl, rfl⟩) hend (.flat (.one (.dot false)))
  exact hstar.trans (reaches_end (((hbehind.add _).add _).add _))

theorem isLow_finished (marker : List Char) : IsLow 4 (finished marker) := by
  have hstart : IsLow 4 ⟨.start {} none, [], 0, []⟩ := List.forall_mem_nil _
  have hmarker : IsLow 4 beforeMarker :=
    ((hstart.add (Nat.zero_le 4)).add (by decide : 2 ≤ 4)).add (by decide : 1 ≤ 4)
  have hkey : IsLow 4 (beforeKey marker) := (hmarker.addChars marker).add (by decide : 1 ≤ 4)
  have hbehind : IsLow 4 { (beforeKey marker).add ⟨4, .group keyGroup keyPattern⟩ with numbered := 1 } :=
    hkey.add (Nat.le_refl 4)
  exact (((hbehind.add (by decide : 1 ≤ 4)).add (by decide : 2 ≤ 4)).add (by decide : 1 ≤ 4)).add (Nat.zero_le 4)

theorem ordered_finished (marker : List Char) : ordered (finished marker) =
    .at .textStart :: .one markerChars :: spaces ::
      ((marker.map fun c => .word [c]) ++ spaces :: .group keyGroup keyPattern :: partsBehind) := by
  have hbefore : ordered beforeMarker = [.at .textStart, .one markerChars, spaces] := rfl
  have hkey : ordered (beforeKey marker) = .at .textStart :: .one markerChars :: spaces ::
      ((marker.map fun c => .word [c]) ++ [spaces]) := by
    rw [beforeKey, ordered_add, ordered_addChars, hbefore]
    simp
  have hnumbered : ∀ p : Progress, ordered { p with numbered := 1 } = ordered p := fun _ => rfl
  rw [finished, ordered_add, ordered_add, ordered_add, ordered_add, hnumbered, ordered_add, hkey]
  simp [partsBehind, Nested.flat]

theorem ofSeq_ordered_finished (marker : List Char) :
    Expression.ofSeq (ordered (finished marker)) = expression marker := by
  have hparts : (ordered (finished marker)).flatMap Expression.parts = ordered (finished marker) := by
    rw [ordered_finished]
    simp [List.flatMap_map, Expression.parts, partsBehind, spaces, ← List.map_eq_flatMap]
  have hwords : (marker.map fun c => Expression.word [c]).foldr Expression.joinWords
      (spaces :: .group keyGroup keyPattern :: partsBehind) =
        Expression.wordParts marker ++ spaces :: .group keyGroup keyPattern :: partsBehind :=
    Expression.foldr_joinWords_map fun ds h => by cases h
  rw [Expression.ofSeq, hparts, ordered_finished, List.foldr_cons, List.foldr_cons, List.foldr_cons,
    List.foldr_append]
  have hbehind : (spaces :: .group keyGroup keyPattern :: partsBehind).foldr Expression.joinWords [] =
    spaces :: .group keyGroup keyPattern :: partsBehind := rfl
  rw [hbehind, hwords, expression, partsBefore]
  simp [Expression.joinWords, spaces]

theorem ofAlternatives_finished (marker : List Char) :
    Expression.ofAlternatives [.ofSeq (ordered (finished marker))] = expression marker := by
  rw [ofSeq_ordered_finished]
  have hbranches : (expression marker).branches = [expression marker] := rfl
  rw [Expression.ofAlternatives, List.flatMap_singleton, hbranches, Expression.simplify]

/-- The only fault that there can be is that the pattern is too large. -/
theorem pattern_eq (marker : String) : pattern marker =
    if (expression marker.toList).isAffordable then .ok (expression marker.toList) else .error .tooLarge := by
  obtain ⟨extra, h⟩ := reaches_finished marker 0
  rw [Nat.add_zero] at h
  rw [pattern, Expression.ofText]
  simp only [h]
  exact readAll_nil rfl rfl (isLow_finished _) (by decide) (ofAlternatives_finished _) _

theorem hasPattern_iff {marker : String} : HasPattern marker ↔ (expression marker.toList).isAffordable = true := by
  rw [HasPattern, pattern_eq]
  split
  · rename_i h
    exact iff_of_true rfl h
  · rename_i h
    exact iff_of_false Bool.false_ne_true h

theorem eq_expression_of_ok {marker : String} {p : Expression} (h : pattern marker = .ok p) :
    p = expression marker.toList := by
  rw [pattern_eq] at h
  split at h
  · exact (Except.ok.inj h).symm
  · cases h

theorem eq_tooLarge_of_error {marker : String} {fault : Fault} (h : pattern marker = .error fault) :
    fault = .tooLarge := by
  rw [pattern_eq] at h
  split at h
  · cases h
  · exact (Except.error.inj h).symm

end Reading

/-! ### Markers that are too long -/

section Size

open Footprint

variable {marker : String}

/-- The states for the bytes of the marker alone can pass the limit. -/
theorem pattern_of_long (hlong : limit < stateBytes * (bytesOf marker.toList).length) :
    pattern marker = .error .tooLarge := by
  have hmem : .word marker.toList ∈ partsBefore marker.toList ++ .group keyGroup keyPattern :: partsBehind := by
    have hne : marker.toList ≠ [] := by
      intro hnil
      rw [hnil] at hlong
      exact absurd hlong (by decide)
    simp [partsBefore, Expression.wordParts, hne]
  rw [pattern_eq, if_neg]
  rw [expression, Expression.not_isAffordable_of_word hmem hlong]
  exact Bool.false_ne_true

/-- What the pattern takes at most besides the bytes of the marker. -/
def frameCost : Nat := 10772

theorem costOf_expression_le (marker : List Char) :
    costOf (expression marker) + (6 * stateBytes + 2 * edgeBytes + 4 * branchBytes) ≤
      stateBytes * (bytesOf marker).length + frameCost := by
  have hparts := costOf_ofParts_le (partsBefore marker ++ .group keyGroup keyPattern :: partsBehind)
  have hword : ((Expression.wordParts marker).map fun a => costOf a + branchBytes).sum ≤
      stateBytes * (bytesOf marker).length + branchBytes := by
    rw [Expression.wordParts]
    split
    · exact Nat.zero_le _
    · simp [costOf]
  have hspaces : costOf spaces = 1420 := by decide +kernel
  have hbefore : costOf (.at .textStart) + costOf (.one markerChars) = 112 := by decide +kernel
  have hbehind : costOf (.group keyGroup keyPattern) + (partsBehind.map costOf).sum = 7524 := by decide +kernel
  refine Nat.le_trans (Nat.add_le_add_right hparts _) ?_
  simp only [partsBefore, partsBehind, List.map_append, List.map_cons, List.sum_append, List.sum_cons, List.map_nil,
    List.sum_nil] at hbehind ⊢
  simp only [stateBytes, branchBytes, edgeBytes, frameCost] at hword ⊢
  omega

theorem isSimple_expression (marker : List Char) : isSimple (expression marker) = true := by
  have hword : ∀ a ∈ Expression.wordParts marker, isSimple a = true := Expression.forall_mem_wordParts rfl
  refine isSimple_ofParts ?_
  simp only [partsBefore, partsBehind, List.cons_append, List.forall_mem_cons, List.forall_mem_append]
  exact ⟨rfl, rfl, rfl, ⟨hword, rfl, List.forall_mem_nil _⟩, rfl, rfl, rfl, rfl, rfl, List.forall_mem_nil _⟩

/-- Any other marker has a pattern. -/
theorem hasPattern_of_short (hshort : stateBytes * (bytesOf marker.toList).length + frameCost ≤ limit) :
    HasPattern marker :=
  hasPattern_iff.2 <| Expression.isAffordable_of_cost (isSimple_expression marker.toList) <|
    Nat.le_trans (costOf_expression_le marker.toList) hshort

end Size

/-! ### What is captured -/

section Meaning

variable {x y z : Cursor} {marker line key : List Char}

/-- A set with a least count and no limit asks for at least so many characters out of it. -/
theorem reads_repeated_iff {low : Nat} {s : CharSet} :
    (Expression.repeated true low none (.one s)).Reads x y ↔
      ∃ cs, low ≤ cs.length ∧ (∀ c ∈ cs, s.contains c = true) ∧ Passes cs x y := by
  simp only [Expression.Reads, rounds_takes_iff]
  constructor
  · rintro ⟨n, hlow, -, cs, rfl, hcs, hpass⟩
    exact ⟨cs, hlow, hcs, hpass⟩
  · rintro ⟨cs, hlow, hcs, hpass⟩
    exact ⟨cs.length, hlow, by simp, cs, rfl, hcs, hpass⟩

theorem reads_spaces_iff : spaces.Reads x y ↔ ∃ gap, (∀ c ∈ gap, isWhiteSpace c = true) ∧ Passes gap x y := by
  simp only [spaces, reads_repeated_iff, Nat.zero_le, true_and, contains_whiteSpaceChars]

theorem reads_keyPattern_iff :
    keyPattern.Reads x y ↔ ∃ key, key ≠ [] ∧ (∀ c ∈ key, isKeyChar c = true) ∧ Passes key x y := by
  simp only [keyPattern, reads_repeated_iff, contains_keyChars, ← List.length_pos_iff, Nat.succ_le_iff]

theorem reads_wordParts_iff : (Expression.ofParts (Expression.wordParts marker)).Reads x y ↔ Passes marker x y := by
  rw [Expression.wordParts]
  split
  · rename_i h
    rw [Expression.reads_ofParts_nil, h, passes_nil]
  · rfl

/-- Before the key there are a comment mark and the marker, with white space behind each of them. -/
theorem reads_partsBefore_iff : (Expression.ofParts (partsBefore marker)).Reads ⟨none, line⟩ y ↔
    ∃ mark gap front, (mark = '#' ∨ mark = '!') ∧ (∀ c ∈ gap, isWhiteSpace c = true) ∧
      (∀ c ∈ front, isWhiteSpace c = true) ∧ Passes (mark :: (gap ++ (marker ++ front))) ⟨none, line⟩ y := by
  simp only [partsBefore, Expression.reads_ofParts_cons, Expression.reads_ofParts_append, reads_wordParts_iff,
    Expression.reads_ofParts_nil, Expression.reads_at_iff, Expression.reads_one_iff, Takes, contains_markerChars,
    isCommentMarker_iff, reads_spaces_iff]
  constructor
  · rintro ⟨_, ⟨rfl, -⟩, v₁, ⟨mark, hmark, hv₁⟩, v₂, ⟨gap, hgap, hv₂⟩, v₃, hv₃, _, ⟨front, hfront, hv₄⟩, rfl⟩
    refine ⟨mark, gap, front, hmark, hgap, hfront, ?_⟩
    exact passes_append_iff.2 ⟨v₁, hv₁, passes_append_iff.2 ⟨v₂, hv₂, passes_append_iff.2 ⟨v₃, hv₃, hv₄⟩⟩⟩
  · rintro ⟨mark, gap, front, hmark, hgap, hfront, hpass⟩
    obtain ⟨v₁, hv₁, hrest⟩ := passes_append_iff.1 (List.singleton_append ▸ hpass)
    obtain ⟨v₂, hv₂, hrest⟩ := passes_append_iff.1 hrest
    obtain ⟨v₃, hv₃, hv₄⟩ := passes_append_iff.1 hrest
    exact ⟨_, ⟨rfl, rfl⟩, v₁, ⟨mark, hmark, hv₁⟩, v₂, ⟨gap, hgap, hv₂⟩, v₃, hv₃, y, ⟨front, hfront, hv₄⟩, rfl⟩

/-- Behind the key there is a separator, and then the line goes on to its end. -/
theorem exists_reads_partsBehind_iff :
    (∃ w, (Expression.ofParts partsBehind).Reads z w) ↔ SeparatorAhead z.ahead := by
  simp only [partsBehind, Expression.reads_ofParts_cons, Expression.reads_ofParts_nil, reads_spaces_iff,
    reads_repeated_iff, Expression.reads_at_iff, Expression.reads_one_iff, Takes, contains_separatorChars, contains_dot,
    Nat.zero_le, true_and]
  constructor
  · rintro ⟨w, v₁, ⟨gap, hgap, hv₁⟩, v₂, ⟨sep, hsep, hv₂⟩, v₃, ⟨rest, hrest, hv₃⟩, _, ⟨rfl, hend⟩, rfl⟩
    have hnil : v₃.ahead = [] := by simpa [Place.holds, Cursor.gap] using hend
    refine ⟨gap, sep, rest, ?_, hgap, hsep, fun h => hrest _ h rfl⟩
    rw [hv₁.1, hv₂.1, hv₃.1, hnil, List.append_nil, List.singleton_append]
  · rintro ⟨gap, sep, rest, hahead, hgap, hsep, hrest⟩
    have hpass : Passes (gap ++ ([sep] ++ rest)) z ⟨(gap ++ ([sep] ++ rest)).getLast?.or z.before, []⟩ :=
      ⟨by rw [hahead, List.append_nil, List.singleton_append], rfl⟩
    obtain ⟨v₁, hv₁, hmore⟩ := passes_append_iff.1 hpass
    obtain ⟨v₂, hv₂, hv₃⟩ := passes_append_iff.1 hmore
    refine ⟨_, v₁, ⟨gap, hgap, hv₁⟩, v₂, ⟨sep, hsep, hv₂⟩, _, ⟨rest, ?_, hv₃⟩, _, ⟨rfl, rfl⟩, rfl⟩
    rintro c hc rfl
    exact hrest hc

theorem isPlain_parts (marker : List Char) : (∀ a ∈ partsBefore marker, a.isPlain = true) ∧ keyPattern.isPlain = true ∧
    ∀ a ∈ partsBehind, a.isPlain = true := by
  have hword : ∀ a ∈ Expression.wordParts marker, a.isPlain = true := Expression.forall_mem_wordParts rfl
  refine ⟨?_, rfl, by simp [partsBehind, spaces, Expression.isPlain]⟩
  simp only [partsBefore, List.forall_mem_cons, List.forall_mem_append]
  exact ⟨rfl, rfl, rfl, hword, rfl, List.forall_mem_nil _⟩

/-- The ways to match a line take the keys that it can defer. -/
theorem exists_taken_iff :
    (∃ u ∈ (expression marker).trails ⟨⟨none, line⟩, []⟩, u.taken = [(keyGroup, key)]) ↔
      IsDeferral marker line key := by
  obtain ⟨hbefore, hkey, hbehind⟩ := isPlain_parts marker
  rw [expression]
  simp only [Expression.mem_trails_group_iff hbefore hkey hbehind, reads_partsBefore_iff, reads_keyPattern_iff]
  constructor
  · rintro ⟨u, ⟨y, z, found, ⟨mark, gap, front, hmark, hgap, hfront, hy⟩, ⟨key', hne, hchars, hz⟩, hfound, hend, htaken⟩,
      hgroup⟩
    rw [htaken] at hgroup
    obtain rfl : found = key := by simpa using hgroup
    obtain rfl : found = key' := by
      have heq := hfound.1.symm.trans hz.1
      exact List.append_cancel_right heq
    refine ⟨mark, gap, front ++ y.ahead, ?_, hmark, hgap, front, z.ahead, ?_, hfront, hne, hchars,
      exists_reads_partsBehind_iff.1 ⟨_, hend⟩⟩
    · have hline := hy.1
      simpa using hline
    · rw [hz.1]
  · rintro ⟨mark, gap, _, rfl, hmark, hgap, front, rest, rfl, hfront, hne, hchars, hahead⟩
    have hpass : Passes ((mark :: (gap ++ (marker ++ front))) ++ key)
        ⟨none, mark :: (gap ++ (marker ++ (front ++ (key ++ rest))))⟩
        ⟨((mark :: (gap ++ (marker ++ front))) ++ key).getLast?.or none, rest⟩ := ⟨by simp, rfl⟩
    obtain ⟨y, hy, hz⟩ := passes_append_iff.1 hpass
    obtain ⟨w, hw⟩ := (exists_reads_partsBehind_iff (z := ⟨_, rest⟩)).2 hahead
    exact ⟨⟨w, [(keyGroup, key)]⟩, ⟨y, _, key, ⟨mark, gap, front, hmark, hgap, hfront, hy⟩, ⟨key, hne, hchars, hz⟩, hz,
      hw, rfl⟩, rfl⟩

theorem capture?_expression_iff :
    capture? (expression marker) line = some key ↔ IsDeferral marker line key := by
  have hstart : ∀ x y, (expression marker).Reads x y → x.before = none := by
    intro x y h
    obtain ⟨_, ⟨rfl, hholds⟩, -⟩ := Expression.reads_ofParts_cons.1 h
    simpa [Place.holds, Cursor.gap] using hholds
  refine Expression.capture?_eq_some_iff_of_unique hstart (fun k => exists_taken_iff) ?_ fun k k' => IsDeferral.unique
  intro u hu
  obtain ⟨hbefore, hkey, hbehind⟩ := isPlain_parts marker
  obtain ⟨-, -, found, -, -, -, -, htaken⟩ := (Expression.mem_trails_group_iff hbefore hkey hbehind).1 hu
  exact ⟨found, htaken⟩

/-- The search finds what the pattern captures, on every line and for every marker. -/
theorem key?_eq_capture? (marker line : List Char) : key? marker line = capture? (expression marker) line := by
  refine Option.ext fun key => ?_
  rw [key?_eq_some_iff, capture?_expression_iff]

end Meaning

/-! ### What settings can be sure of -/

/-- The only thing that can be wrong with the pattern is that the marker is too long for it. Where there is a pattern,
what it captures from a line is the key in its place, there is one such key at most, and the search that goes over the
line once finds the same. From the comment that is written for a key, the key is captured exactly if it holds neither
white space nor a separator. -/
theorem captured_iff_isDeferral {s : Settings} (hs : s.IsValid) :
    let marker := s.deferralMarker.toList
    (∀ fault, pattern s.deferralMarker = .error fault →
      fault = .tooLarge ∧
        Footprint.limit < Footprint.stateBytes * (bytesOf marker).length + frameCost) ∧
    ∀ p, pattern s.deferralMarker = .ok p →
      (∀ line key, capture? p line = some key ↔ IsDeferral marker line key) ∧
      (∀ line key other, IsDeferral marker line key → IsDeferral marker line other → key = other) ∧
      (∀ line, key? marker line = capture? p line) ∧
      ∀ (key : String) (value : Option String), key ≠ "" → (∀ v ∈ value, '\n' ∉ v.toList) →
        (capture? p (s.deferralText key value).toList = some key.toList ↔
          ∀ c ∈ key.toList, isWhiteSpace c = false ∧ c ≠ '=' ∧ c ≠ ':') := by
  intro marker
  refine ⟨fun fault hfault => ⟨eq_tooLarge_of_error hfault, ?_⟩, fun p hp => ?_⟩
  · refine Nat.lt_of_not_le fun hshort => ?_
    exact not_hasPattern_of_error hfault (hasPattern_of_short hshort)
  obtain rfl := eq_expression_of_ok hp
  refine ⟨fun line key => capture?_expression_iff, fun line key other => IsDeferral.unique,
    fun line => key?_eq_capture? marker line, fun key value hne hvalue => ?_⟩
  rw [capture?_expression_iff, hs.isDeferral_deferralText_iff hne hvalue, canHold, List.all_eq_true]
  exact forall₂_congr fun c _ => isKeyChar_iff

/-- The marker is made of a comment mark and separators, and so is what follows the key. -/
theorem captured_iff_isDeferral_marks_for_marker :
    let s : Settings := { deferralMarker := "#=:", commentMarker := '!', separator := ':' }
    s.IsValid ∧ ∃ p, pattern s.deferralMarker = .ok p ∧
      capture? p "#\t#=:a.b\\\t:= #".toList = some "a.b\\".toList ∧
      s.deferralText "#=" (some "= :") = "! #=: #= : = :" ∧
      capture? p "! #=: #= : = :".toList ≠ some "#=".toList := by
  intro s
  have hs : s.IsValid := by decide +kernel
  have hshort : Footprint.stateBytes * (bytesOf s.deferralMarker.toList).length + frameCost ≤ Footprint.limit := by
    decide
  obtain ⟨p, hp⟩ := (hasPattern_of_short hshort).exists_pattern
  obtain ⟨hcaptured, -, -, hback⟩ := (captured_iff_isDeferral hs).2 p hp
  refine ⟨hs, p, hp, ?_, by decide, ?_⟩
  · rw [hcaptured]
    have hgap : ∀ c ∈ ['\t'], isWhiteSpace c = true := List.forall_mem_singleton.2 (by decide)
    have hahead : SeparatorAhead "\t:= #".toList := ⟨['\t'], ':', "= #".toList, rfl, hgap, rfl, by decide⟩
    exact ⟨'#', ['\t'], "a.b\\\t:= #".toList, by decide, .inl rfl, hgap, [], "\t:= #".toList, by decide,
      List.forall_mem_nil _, by decide, List.all_eq_true.1 (by decide), hahead⟩
  · rw [ne_eq, ← show s.deferralText "#=" (some "= :") = "! #=: #= : = :" by decide,
      hback "#=" (some "= :") (by decide) (by decide)]
    exact fun hkey => (hkey '=' (by decide)).2.1 rfl

/-- A marker of so many letters. -/
@[irreducible] def letters (count : Nat) : String := String.ofList (List.replicate count 'x')

theorem isMarker_letters {count : Nat} (hpos : 0 < count) : Settings.isMarker (letters count) = true := by
  have hne : letters count ≠ "" := by
    intro h
    have hlength := congrArg String.length h
    rw [letters, String.length_ofList, List.length_replicate, String.length_empty] at hlength
    omega
  have hspace : (letters count).toList.any isWhiteSpace = false := by
    rw [letters, String.toList_ofList, List.any_replicate, if_neg (Nat.ne_of_gt hpos)]
    decide
  rw [Settings.isMarker, hspace, bne_iff_ne.2 hne]
  rfl

/-- Settings can have a marker that is too long for its pattern. -/
theorem isValid_letters {count : Nat} (hpos : 0 < count) : Settings.IsValid { deferralMarker := letters count } :=
  Settings.IsValid.withMarker (s := {}) (by decide +kernel) (isMarker_letters hpos)

theorem pattern_letters {count : Nat} (hlong : Footprint.limit < Footprint.stateBytes * count) :
    pattern (letters count) = .error .tooLarge := by
  refine pattern_of_long ?_
  have hsize : Char.utf8Size 'x' = 1 := rfl
  rw [letters, String.toList_ofList, Footprint.length_bytesOf_replicate, hsize, Nat.mul_one]
  exact hlong

/-- With a marker of so many letters nothing is captured from a line that has the form of a deferred entry. -/
theorem not_captured_of_letters :
    let s : Settings := { deferralMarker := letters 400000 }
    let line := '#' :: (s.deferralMarker.toList ++ ['k', '='])
    s.IsValid ∧ IsDeferral s.deferralMarker.toList line ['k'] ∧
      ¬ ∃ p, pattern s.deferralMarker = .ok p ∧ capture? p line = some ['k'] := by
  intro s line
  have hahead : SeparatorAhead ['='] := ⟨[], '=', [], rfl, List.forall_mem_nil _, rfl, List.not_mem_nil⟩
  have hkey : LeadsWith ['k', '='] ['k'] :=
    ⟨[], ['='], rfl, List.forall_mem_nil _, List.cons_ne_nil _ _, List.forall_mem_singleton.2 (by decide), hahead⟩
  -- No step may look into the marker, which is too long to be compared character by character.
  have hline : line = '#' :: ([] ++ (s.deferralMarker.toList ++ ['k', '='])) := by rw [List.nil_append]
  refine ⟨isValid_letters (by decide), ⟨'#', [], ['k', '='], hline, .inl rfl, List.forall_mem_nil _, hkey⟩, ?_⟩
  rintro ⟨p, hp, -⟩
  exact not_hasPattern_of_error (pattern_letters (by decide)) (hasPattern_of_ok hp)

end BundleCheck.Deferral
