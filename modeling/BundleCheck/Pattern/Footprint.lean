import BundleCheck.Pattern.Encoding
import BundleCheck.Pattern.Expression

/-!
# What a pattern costs

A pattern may not be so large that an automaton for it would fill the memory. What is counted is the
automaton that reads the bytes of a text, once as it reads forwards and once as it reads backwards, and
a pattern is refused if one of the two takes more than ten mebibytes. Every state takes 32 bytes, with 8
more for each edge of a state that chooses by the next byte and 4 more for each branch of a state that
reads nothing.

The automaton is not built. Its states are numbered in the order in which they would be built, because
states within a set of characters are shared through a table of limited size, and which of them are
shared depends on their numbers. Counting stops where the limit is passed, so counts of repetition do
not make it long.
-/

namespace BundleCheck.Pattern

inductive Direction where
  | forwards
  | backwards
deriving DecidableEq, Repr

/-- An automaton as far as it has been built. -/
structure Footprint where
  states : Nat
  /-- The bytes that edges and branches take. -/
  detail : Nat
  /-- Whether what was built last ends in a branching state, to which a branch is added when something
  is put behind it. -/
  endsBranching : Bool

namespace Footprint

def stateBytes : Nat := 32

def edgeBytes : Nat := 8

def branchBytes : Nat := 4

def limit : Nat := 10 * 1024 * 1024

def bytes (f : Footprint) : Nat := stateBytes * f.states + f.detail

def empty : Footprint := ⟨0, 0, false⟩

/-- What something adds to an automaton, unless the automaton becomes too large. -/
abbrev Growth := Footprint → Option Footprint

def within (f : Footprint) : Option Footprint :=
  if f.bytes ≤ limit then some f else none

/-- Adds states, with the bytes of their edges and branches. -/
def add (states detail : Nat) : Growth := fun f =>
  { f with states := f.states + states, detail := f.detail + detail : Footprint }.within

/-- Puts something behind what was built last. -/
def link : Growth := fun f =>
  if f.endsBranching then add 0 branchBytes f else some f

/-- Says how what has been built ends. -/
def ending (branching : Bool) : Growth := fun f => some { f with endsBranching := branching }

/-- One thing after the other. -/
def inTurn (steps : List Growth) : Growth := fun f => steps.foldlM (fun f step => step f) f

/-- States that do not branch. -/
def plain (states detail : Nat) : Growth := inTurn [add states detail, ending false]

/-! ### Sets of characters -/

/-- The hash of some numbers by which a place in a table is chosen, in 64 bits. -/
def hashOf (numbers : List Nat) : Nat :=
  numbers.foldl (fun h n => (h ^^^ n) * 1099511628211 % 0x10000000000000000) 14695981039346656037

/-- The states that are still known, by their places. The places come from hashes, so that a search tree for
them needs no balancing. -/
inductive Places where
  | none
  | at (place : Nat) (key : List Nat) (state : Nat) (before behind : Places)

namespace Places

def find? (place : Nat) : Places → Option (List Nat × Nat)
  | none => .none
  | .at p key state before behind =>
    if place < p then before.find? place else if p < place then behind.find? place else some (key, state)

def insert (place : Nat) (key : List Nat) (state : Nat) : Places → Places
  | none => .at place key state none none
  | .at p known old before behind =>
    if place < p then .at p known old (before.insert place key state) behind
    else if p < place then .at p known old before (behind.insert place key state)
    else .at place key state before behind

end Places

/-- A table with room for so many states, at most one for each place, by what they are. -/
structure Known where
  places : Nat
  states : Places

namespace Known

def empty (places : Nat) : Known := ⟨places, .none⟩

def place (k : Known) (key : List Nat) : Nat := hashOf key % k.places

def find? (k : Known) (key : List Nat) : Option Nat :=
  match k.states.find? (k.place key) with
  | some (known, state) => if known = key then some state else none
  | none => none

/-- Remembers a state, and forgets the one that has its place. -/
def insert (k : Known) (key : List Nat) (state : Nat) : Known :=
  { k with states := k.states.insert (k.place key) key state }

end Known

/-- An automaton while a set is added to it. -/
structure Shared where
  footprint : Footprint
  known : Known

/-- The state that is described by the key: a known one, or a new one with so many bytes besides. -/
def Shared.state (key : List Nat) (detail : Nat) (s : Shared) : Nat × Shared :=
  match s.known.find? key with
  | some state => (state, s)
  | none =>
    let f := s.footprint
    (f.states,
      ⟨{ f with states := f.states + 1, detail := f.detail + detail },
        s.known.insert key f.states⟩)

/-- Collects neighbouring blocks that have the first range in common. -/
def collect (blocks : List Block) : List (ByteRange × List Block) :=
  blocks.foldr
    (fun block groups =>
      match block, groups with
      | [], groups => groups
      | range :: rest, [] => [(range, [rest])]
      | range :: rest, (next, others) :: groups =>
        if range = next then (next, rest :: others) :: groups
        else (range, [rest]) :: (next, others) :: groups)
    []

/-- The state that reads blocks of at most the given length and goes on to `exit`. States are built from
the last byte to the first one. -/
def readBlocks (exit : Nat) : Nat → List Block → StateM Shared Nat
  | 0, _ => pure exit
  | length + 1, blocks => do
    let edges ← (collect blocks).mapM fun (range, rests) => do
      let target ←
        if rests.all List.isEmpty then pure exit else readBlocks exit length rests
      return [range.first, range.last, target]
    modifyGet (Shared.state edges.flatten (edgeBytes * edges.length))

/-- The places of the table that is kept while a set is read forwards. -/
def forwardPlaces : Nat := 10000

/-- The greatest number of bytes of a character. -/
def maxLength : Nat := 4

def setForwards (s : CharSet) : Growth := fun f =>
  let start : Shared := ⟨{ f with states := f.states + 1 }, .empty forwardPlaces⟩
  ((readBlocks f.states maxLength s.blocks).run start).2.footprint.within

/-- The places of the table that is kept while a set is read backwards. -/
def backwardPlaces : Nat := 1000

/-- Reads one block backwards. Its bytes are built from the first to the last one. -/
def readBlock (exit : Nat) (s : Shared) (block : Block) : Shared :=
  let (_, s) := block.foldl
    (fun (target, s) range => Shared.state [target, range.first, range.last] 0 s) (exit, s)
  { s with footprint.detail := s.footprint.detail + branchBytes }

def setBackwards (s : CharSet) : Growth := fun f =>
  let start : Shared := ⟨{ f with states := f.states + 2 }, .empty backwardPlaces⟩
  (s.blocks.foldl (readBlock (f.states + 1)) start).footprint.within

/-- A set of ASCII characters is one state with an edge for every range. -/
def set (d : Direction) (s : CharSet) : Growth :=
  let states : Growth :=
    if s.isAscii then add 2 (edgeBytes * s.ranges.length)
    else
      match d with
      | .forwards => setForwards s
      | .backwards => setBackwards s
  inTurn [states, ending false]

/-! ### Alternatives that are words

Words are read by a tree, so that what several of them begin with is read once. A word that ends within
the tree comes before the longer words that were given behind it, and those do not share with the words
that were given before it. -/

/-- The rests of words at a state of the tree, in sections between the words that end there. -/
structure Sections where
  closed : List (List (List Nat))
  current : List (List Nat)

/-- Adds a rest. Where words have ended and nothing goes on, another end makes no difference. -/
def Sections.add (s : Sections) (rest : List Nat) : Sections :=
  match rest with
  | [] =>
    if !s.closed.isEmpty && s.closed.all List.isEmpty && s.current.isEmpty then s
    else ⟨s.closed ++ [s.current], []⟩
  | _ => { s with current := s.current ++ [rest] }

/-- The rests behind each byte that begins one. -/
def behindBytes (rests : List (List Nat)) : List (List (List Nat)) :=
  (rests.filterMap List.head?).eraseDups.map fun byte =>
    (rests.filter (·.head? = some byte)).map List.tail

/-- The states and the further bytes for the rests of words, which are at most `length` long. -/
def tree : Nat → List (List Nat) → Nat × Nat
  | 0, _ => (0, 0)
  | length + 1, rests =>
    if rests.all List.isEmpty then (0, 0)
    else
      let sections := rests.foldl Sections.add ⟨[], []⟩
      let choices :=
        ((sections.closed ++ [sections.current]).map behindBytes).filter (!·.isEmpty)
      let below := choices.flatten.map (tree length)
      let edges := choices.map fun choice =>
        if choice.length = 1 then 0 else edgeBytes * choice.length
      (1 + choices.length + (below.map Prod.fst).sum,
        branchBytes * (choices.length + sections.closed.length) + edges.sum +
          (below.map Prod.snd).sum)

/-- The bytes of a word in the order in which they are read. -/
def reading (d : Direction) (word : List Char) : List Nat :=
  match d with
  | .forwards => bytesOf word
  | .backwards => (bytesOf word).reverse

def words (d : Direction) (ws : List (List Char)) : Growth :=
  let rests := ws.map (reading d)
  let (states, detail) := tree ((rests.map List.length).foldl max 0 + 1) rests
  plain (states + 1) detail

/-! ### Repetition -/

/-- So many further copies, one behind the other. -/
def copies (a : Growth) : Nat → Growth
  | 0, f => some f
  | n + 1, f => (inTurn [link, a] f).bind (copies a n)

def exactly (a : Growth) : Nat → Growth
  | 0 => plain 1 0
  | n + 1 => inTurn [a, copies a n]

/-- So many further copies, before each of which the repetition can end. -/
def optional (a : Growth) : Nat → Growth
  | 0, f => some f
  | n + 1, f => (inTurn [link, add 1 (2 * branchBytes), a] f).bind (optional a n)

/-- Any number of copies. Where a copy can read nothing, two more states keep the order of preference. -/
def anyNumber (a : Growth) (readsOn : Bool) : Growth :=
  if readsOn then inTurn [add 1 branchBytes, a, link, ending true]
  else inTurn [a, link, plain 3 (4 * branchBytes)]

/-- At least one copy. -/
def oneOrMore (a : Growth) : Growth := inTurn [a, link, add 1 branchBytes, ending true]

def repeated (a : Growth) (readsOn : Bool) (low : Nat) (high : Option Nat) : Growth :=
  match low, high with
  | 0, some 1 => inTurn [add 1 (2 * branchBytes), a, link, plain 1 0]
  | 0, none => anyNumber a readsOn
  | 1, none => oneOrMore a
  | low + 1, none => inTurn [exactly a low, link, oneOrMore a]
  | low, some high =>
    if high ≤ low then exactly a low
    else inTurn [exactly a low, add 1 0, optional a (high - low), link, ending false]

/-! ### Patterns -/

/-- Where a pattern stands: for itself, as the second of some alternatives, or as a later one. -/
inductive Standing where
  | whole
  | second
  | later

/-- What an alternative adds besides itself. The branching state and the state that the alternatives
meet in are built when the second one is. -/
def Standing.close : Standing → Growth
  | whole => some
  | second => inTurn [link, add 2 (2 * branchBytes)]
  | later => inTurn [link, add 0 branchBytes]

def word? : Expression → Option (List Char)
  | .word cs => some cs
  | _ => none

/-- What a pattern adds. The parts of a sequence are built in the order in which they are read. -/
def ofExpression (d : Direction) : Expression → Standing → Growth
  | .alt a b, .whole =>
    match (a.branches ++ b.branches).mapM word? with
    | some ws => words d ws
    | none =>
      inTurn
        [ofExpression d a .whole, link, ending false, ofExpression d b .second, ending false]
  | .alt a b, standing =>
    inTurn [ofExpression d a .whole, standing.close, ofExpression d b .later]
  | .empty, standing | .at _, standing => inTurn [plain 1 0, standing.close]
  | .word cs, standing => inTurn [plain (bytesOf cs).length 0, standing.close]
  | .one s, standing => inTurn [set d s, standing.close]
  | .group _ a, standing =>
    match d with
    | .forwards =>
      inTurn [add 1 0, ofExpression d a .whole, link, plain 1 0, standing.close]
    | .backwards => inTurn [ofExpression d a .whole, standing.close]
  | .repeated _ low high a, standing =>
    inTurn [repeated (ofExpression d a .whole) a.readsOn low high, standing.close]
  | .seq a b, standing =>
    match d with
    | .forwards =>
      inTurn [ofExpression d a .whole, link, ofExpression d b .whole, standing.close]
    | .backwards =>
      inTurn [ofExpression d b .whole, link, ofExpression d a .whole, standing.close]

/-- Whether every match begins where the automaton does. -/
def isAnchored (d : Direction) (a : Expression) : Bool :=
  match d with
  | .forwards => a.startsText
  | .backwards => a.endsText

/-- The whole automaton. Read forwards, the whole pattern counts as a group. If a match can begin
anywhere, a loop over all bytes stands before it. -/
def ofPattern (d : Direction) (a : Expression) : Option Footprint :=
  let start :=
    if isAnchored d a then add 1 0 else add 3 (edgeBytes + 2 * branchBytes)
  let whole : Expression :=
    match d with
    | .forwards => .group 0 a
    | .backwards => a
  inTurn [start, ofExpression d whole .whole, link, add 1 0] empty

end Footprint

/-- Whether neither automaton of the pattern is too large. -/
def Expression.isAffordable (a : Expression) : Bool :=
  (Footprint.ofPattern .forwards a).isSome && (Footprint.ofPattern .backwards a).isSome

end BundleCheck.Pattern
