import BundleCheck.Unicode.CaseFolding

/-!
# Sets of characters in patterns

A pattern tests one character at a time against a set. A set is given by the code points at which
membership changes, in increasing order: the first of them begins the first range of members, the
second one is the first code point behind that range, and so on. A set has one such list, so equal sets
are equal as data, and every operation of sets is one pass over two lists.
-/

namespace BundleCheck.Pattern

/-! ### Points of change -/

/-- Puts a point before others, if something changes there. -/
def keepIf (changes : Bool) (n : Nat) (rest : List Nat) : List Nat :=
  if changes then n :: rest else rest

theorem mem_keepIf {changes : Bool} {n x : Nat} {rest : List Nat} (h : x ∈ keepIf changes n rest) :
    x = n ∨ x ∈ rest := by
  cases changes
  · exact Or.inr h
  · simpa [keepIf] using h

theorem pairwise_keepIf {n : Nat} {rest : List Nat} (changes : Bool)
    (hrest : rest.Pairwise (· < ·)) (hn : ∀ x ∈ rest, n < x) :
    (keepIf changes n rest).Pairwise (· < ·) := by
  cases changes
  · exact hrest
  · exact List.pairwise_cons.2 ⟨hn, hrest⟩

/-- The points of change of a combination whose first set does not change any more. -/
def combineWith (op : Bool → Bool → Bool) (p : Bool) : Bool → List Nat → List Nat
  | _, [] => []
  | q, b :: t => keepIf (op p q != op p (!q)) b (combineWith op p (!q) t)

/-- The points of change of a combination, where the second set changes before or at the next point
`a` of the first one. Before their points the sets hold `p` and `q`. -/
def combineUpTo (op : Bool → Bool → Bool) (p : Bool) (a : Nat)
    (onward : Bool → List Nat → List Nat) : Bool → List Nat → List Nat
  | q, [] => keepIf (op p q != op (!p) q) a (onward q [])
  | q, b :: t =>
    if b < a then keepIf (op p q != op p (!q)) b (combineUpTo op p a onward (!q) t)
    else if b = a then keepIf (op p q != op (!p) (!q)) a (onward (!q) t)
    else keepIf (op p q != op (!p) q) a (onward q (b :: t))

/-- The points of change of a combination of two sets. -/
def combinePoints (op : Bool → Bool → Bool) : Bool → List Nat → Bool → List Nat → List Nat
  | p, [], q, t => combineWith op p q t
  | p, a :: s, q, t => combineUpTo op p a (fun q t => combinePoints op (!p) s q t) q t

theorem combineWith_sound (op : Bool → Bool → Bool) (p q : Bool) (t : List Nat)
    (ht : t.Pairwise (· < ·)) :
    (combineWith op p q t).Pairwise (· < ·) ∧ ∀ x ∈ combineWith op p q t, x ∈ t := by
  induction t generalizing q with
  | nil => simp [combineWith]
  | cons b t ih =>
    obtain ⟨hb, htail⟩ := List.pairwise_cons.1 ht
    obtain ⟨hpair, hmem⟩ := ih (!q) htail
    refine ⟨pairwise_keepIf _ hpair fun x hx => hb x (hmem x hx), fun x hx => ?_⟩
    rcases mem_keepIf hx with rfl | h
    · exact List.mem_cons_self
    · exact List.mem_cons_of_mem _ (hmem x h)

theorem combineUpTo_sound {op : Bool → Bool → Bool} {p : Bool} {a : Nat} {s : List Nat}
    {onward : Bool → List Nat → List Nat} (hs : ∀ x ∈ s, a < x)
    (honward : ∀ (q : Bool) (t : List Nat), t.Pairwise (· < ·) →
      (onward q t).Pairwise (· < ·) ∧ ∀ x ∈ onward q t, x ∈ s ∨ x ∈ t)
    (q : Bool) (t : List Nat) (ht : t.Pairwise (· < ·)) :
    (combineUpTo op p a onward q t).Pairwise (· < ·) ∧
      ∀ x ∈ combineUpTo op p a onward q t, x ∈ a :: s ∨ x ∈ t := by
  induction t generalizing q with
  | nil =>
    obtain ⟨hpair, hmem⟩ := honward q [] ht
    refine ⟨pairwise_keepIf _ hpair fun x hx => ?_, fun x hx => ?_⟩
    · rcases hmem x hx with h | h
      · exact hs x h
      · simp at h
    · rcases mem_keepIf hx with rfl | h
      · simp
      · rcases hmem x h with h | h <;> simp [h]
  | cons b t ih =>
    have hb := (List.pairwise_cons.1 ht).1
    have htail := (List.pairwise_cons.1 ht).2
    unfold combineUpTo
    split
    · rename_i hlt
      obtain ⟨hpair, hmem⟩ := ih (!q) htail
      refine ⟨pairwise_keepIf _ hpair fun x hx => ?_, fun x hx => ?_⟩
      · rcases hmem x hx with h | h
        · rcases List.mem_cons.1 h with rfl | h
          · exact hlt
          · exact Nat.lt_trans hlt (hs x h)
        · exact hb x h
      · rcases mem_keepIf hx with rfl | h
        · simp
        · rcases hmem x h with h | h <;> simp [h]
    · split
      · rename_i _ heq
        subst heq
        obtain ⟨hpair, hmem⟩ := honward (!q) t htail
        refine ⟨pairwise_keepIf _ hpair fun x hx => ?_, fun x hx => ?_⟩
        · rcases hmem x hx with h | h
          · exact hs x h
          · exact hb x h
        · rcases mem_keepIf hx with rfl | h
          · simp
          · rcases hmem x h with h | h <;> simp [h]
      · rename_i hlt hne
        obtain ⟨hpair, hmem⟩ := honward q (b :: t) ht
        refine ⟨pairwise_keepIf _ hpair fun x hx => ?_, fun x hx => ?_⟩
        · rcases hmem x hx with h | h
          · exact hs x h
          · rcases List.mem_cons.1 h with rfl | h
            · omega
            · have := hb x h
              omega
        · rcases mem_keepIf hx with rfl | h
          · simp
          · rcases hmem x h with h | h
            · simp [h]
            · exact Or.inr h

theorem combinePoints_sound (op : Bool → Bool → Bool) (p : Bool) (s : List Nat)
    (hs : s.Pairwise (· < ·)) (q : Bool) (t : List Nat) (ht : t.Pairwise (· < ·)) :
    (combinePoints op p s q t).Pairwise (· < ·) ∧
      ∀ x ∈ combinePoints op p s q t, x ∈ s ∨ x ∈ t := by
  induction s generalizing p q t with
  | nil =>
    obtain ⟨hpair, hmem⟩ := combineWith_sound op p q t ht
    exact ⟨hpair, fun x hx => Or.inr (hmem x hx)⟩
  | cons a s ih =>
    have ha := List.pairwise_cons.1 hs
    unfold combinePoints
    exact combineUpTo_sound ha.1 (fun q t ht => ih (!p) ha.2 q t ht) q t ht

/-- Whether a code point is in the set with the given points of change, of which the part behind
`first` is left. -/
def holdsFrom (first : Bool) : List Nat → Nat → Bool
  | [], _ => first
  | point :: rest, n => if n < point then first else holdsFrom (!first) rest n

/-! ### Sets -/

structure CharSet where
  points : List Nat
  increasing : points.Pairwise (· < ·)
deriving DecidableEq, Repr

namespace CharSet

/-- The first number that is no code point. -/
def codePoints : Nat := 0x110000

def holds (s : CharSet) (n : Nat) : Bool := holdsFrom false s.points n

def contains (s : CharSet) (c : Char) : Bool := s.holds c.toNat

def empty : CharSet := ⟨[], List.Pairwise.nil⟩

def isEmpty (s : CharSet) : Bool := s.points.isEmpty

def all : CharSet := ⟨[0], List.pairwise_singleton _ _⟩

/-- The code points from `first` to `last`. The last range of a set has no end if it goes on to the
last code point. -/
def between (first last : Nat) : CharSet :=
  if h : first ≤ last ∧ last + 1 < codePoints then
    ⟨[first, last + 1], by simpa using Nat.lt_succ_of_le h.1⟩
  else if first ≤ last then ⟨[first], List.pairwise_singleton _ _⟩
  else empty

def range (first last : Char) : CharSet := between first.toNat last.toNat

def single (c : Char) : CharSet := range c c

theorem holds_between {first last n : Nat} (hn : n < codePoints) :
    (between first last).holds n = true ↔ first ≤ n ∧ n ≤ last := by
  unfold between holds
  split
  · simp only [holdsFrom]
    grind
  · split
    · simp only [holdsFrom]
      grind
    · simp only [empty, holdsFrom]
      grind

theorem toNat_lt_codePoints (c : Char) : c.toNat < codePoints := by
  have hvalid := c.valid
  simp only [UInt32.isValidChar, Nat.isValidChar] at hvalid
  show c.val.toNat < 0x110000
  omega

theorem contains_single {a c : Char} : (single a).contains c = true ↔ c = a := by
  rw [contains, single, range, holds_between (toNat_lt_codePoints c), ← Char.toNat_inj]
  omega

/-- The members of a combination are decided by whether they are members of the two sets. What is in
neither of the sets is not in the combination. -/
def combine (op : Bool → Bool → Bool) (s t : CharSet) : CharSet :=
  ⟨combinePoints op false s.points false t.points,
    (combinePoints_sound op false s.points s.increasing false t.points t.increasing).1⟩

def union : CharSet → CharSet → CharSet := combine (· || ·)

def inter : CharSet → CharSet → CharSet := combine (· && ·)

def diff : CharSet → CharSet → CharSet := combine fun p q => p && !q

def symmDiff : CharSet → CharSet → CharSet := combine (· != ·)

def complement (s : CharSet) : CharSet := all.diff s

/-- Joins each set at an odd place with the one behind it. -/
def unionPairs : List CharSet → List CharSet
  | s :: t :: rest => s.union t :: unionPairs rest
  | rest => rest

/-- Joins pairs until one set is left, which takes no more rounds than there are sets. -/
def unionRounds : Nat → List CharSet → CharSet
  | _, [] => empty
  | _, [s] => s
  | 0, s :: _ => s
  | rounds + 1, sets => unionRounds rounds (unionPairs sets)

def ofList (sets : List CharSet) : CharSet := unionRounds sets.length sets

def ofSpans (spans : List Unicode.Span) : CharSet :=
  ofList (spans.flatMap fun span =>
    if span.step = 1 then [between span.first span.last]
    else span.toList.map fun n => between n n)

/-- The first and the last code point of each range. -/
def rangesOf : List Nat → List (Nat × Nat)
  | [] => []
  | [first] => [(first, codePoints - 1)]
  | first :: stop :: rest => (first, stop - 1) :: rangesOf rest

def ranges (s : CharSet) : List (Nat × Nat) := rangesOf s.points

theorem holdsFrom_of_forall_lt {first : Bool} {points : List Nat} {n : Nat} (h : ∀ point ∈ points, n < point) :
    holdsFrom first points n = first := by
  cases points with
  | nil => rfl
  | cons point rest => rw [holdsFrom, if_pos (h point List.mem_cons_self)]

theorem holdsFrom_iff_of_rangesOf {points : List Nat} (h : points.Pairwise (· < ·)) {n : Nat} (hn : n < codePoints) :
    holdsFrom false points n = true ↔ ∃ r ∈ rangesOf points, r.1 ≤ n ∧ n ≤ r.2 := by
  induction points using rangesOf.induct with
  | case1 => simp [holdsFrom, rangesOf]
  | case2 first =>
    simp only [holdsFrom, rangesOf, List.mem_singleton, exists_eq_left]
    split <;> simp <;> omega
  | case3 first stop rest ih =>
    obtain ⟨hfirst, hrest⟩ := List.pairwise_cons.1 h
    obtain ⟨hstop, hrest⟩ := List.pairwise_cons.1 hrest
    have hlt := hfirst stop List.mem_cons_self
    simp only [holdsFrom, rangesOf, List.mem_cons, exists_eq_or_imp, ← ih hrest, Bool.not_false, Bool.not_true]
    by_cases hbefore : n < stop
    · rw [holdsFrom_of_forall_lt fun point hpoint => Nat.lt_trans hbefore (hstop point hpoint), if_pos hbefore]
      split <;> simp <;> omega
    · rw [if_neg hbefore, if_neg (by omega), or_iff_right (by omega)]

theorem contains_iff {s : CharSet} {c : Char} :
    s.contains c = true ↔ ∃ r ∈ s.ranges, r.1 ≤ c.toNat ∧ c.toNat ≤ r.2 :=
  holdsFrom_iff_of_rangesOf s.increasing (toNat_lt_codePoints c)

/-- The only member, if there is just one. -/
def single? (s : CharSet) : Option Char :=
  match s.ranges with
  | [(first, last)] => if first = last then some (Char.ofNat first) else none
  | _ => none

/-! ### Case -/

/-- The members of a set and what differs from one of them by case alone: first what they fold to, then
all that folds to one of those. -/
def upToCase (s : CharSet) : CharSet :=
  let folded := s.union (ofList (Unicode.foldingPairs.filterMap fun (n, target) =>
    if s.holds n then some (between target target) else none))
  folded.union (ofList (Unicode.foldingPairs.filterMap fun (n, target) =>
    if folded.holds target then some (between n n) else none))

/-- The members of a set, and both cases of the ASCII letters among them. -/
def upToAsciiCase (s : CharSet) : CharSet :=
  ofList (s :: (List.range 26).filterMap fun n =>
    let upper := 'A'.toNat + n
    let lower := 'a'.toNat + n
    if s.holds upper || s.holds lower then some ((between upper upper).union (between lower lower)) else none)

/-- The complement, if it is asked for. -/
def negatedIf (negated : Bool) (s : CharSet) : CharSet :=
  if negated then s.complement else s

/-! ### Sets with a notation of their own -/

/-- What a dot stands for: all characters, or all but the line feed. -/
def dot (lineFeed : Bool) : CharSet :=
  if lineFeed then all else (single '\n').complement

/-- The same where a carriage return ends a line too. -/
def dotBeforeReturn : CharSet := (ofList [single '\n', single '\r']).complement

def asciiDigitChars : CharSet := range '0' '9'

def asciiSpaceChars : CharSet := ofList [range '\t' '\r', single ' ']

def asciiWordChars : CharSet := ofList [range '0' '9', range 'A' 'Z', single '_', range 'a' 'z']

/-- The sets that a bracket expression names between colons. -/
def ofPosixName? (name : String) : Option CharSet :=
  match name with
  | "alnum" => some (ofList [range '0' '9', range 'A' 'Z', range 'a' 'z'])
  | "alpha" => some (ofList [range 'A' 'Z', range 'a' 'z'])
  | "ascii" => some (between 0 0x7F)
  | "blank" => some (ofList [single '\t', single ' '])
  | "cntrl" => some (ofList [range '\x00' '\x1f', single '\x7f'])
  | "digit" => some asciiDigitChars
  | "graph" => some (range '!' '~')
  | "lower" => some (range 'a' 'z')
  | "print" => some (range ' ' '~')
  | "punct" => some (ofList [range '!' '/', range ':' '@', range '[' '\x60', range '\x7b' '~'])
  | "space" => some asciiSpaceChars
  | "upper" => some (range 'A' 'Z')
  | "word" => some asciiWordChars
  | "xdigit" => some (ofList [range '0' '9', range 'A' 'F', range 'a' 'f'])
  | _ => none

end CharSet

end BundleCheck.Pattern
