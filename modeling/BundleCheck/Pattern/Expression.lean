import BundleCheck.Pattern.CharSet

/-!
# Patterns

A pattern is built from words, single characters out of a set, and conditions on a place between
characters. It matches in one of possibly many ways, and the order of those ways is part of its
meaning: of two alternatives the left one comes first, and a greedy repetition prefers to go on while a
lazy one prefers to stop.

The functions that build patterns keep them in a simple form. Adjacent words are joined, sequences and
alternatives are not nested in their like, alternatives that are characters become a set, and what
alternatives have in common at their start stands before them. How much a pattern costs is counted on
that form.
-/

namespace BundleCheck.Pattern

/-- A condition on the words around a place. -/
inductive WordPlace where
  | boundary
  | noBoundary
  | start
  | end
  | noneBefore
  | noneAfter
deriving DecidableEq, Repr

/-- A condition on a place between two characters. -/
inductive Place where
  | textStart
  | textEnd
  /-- Lines end at a line feed, or also at a carriage return. The two together end one line. -/
  | lineStart (returns : Bool)
  | lineEnd (returns : Bool)
  /-- Words are made of any characters that belong to words, or of such ASCII characters alone. -/
  | words (p : WordPlace) (ascii : Bool)
deriving DecidableEq, Repr

inductive Expression where
  | empty
  /-- Some characters, one after the other. -/
  | word (cs : List Char)
  | one (s : CharSet)
  | at (p : Place)
  | group (number : Nat) (a : Expression)
  /-- At least `low` times, and at most `high` times if there is a limit. -/
  | repeated (greedy : Bool) (low : Nat) (high : Option Nat) (a : Expression)
  | seq (a b : Expression)
  | alt (a b : Expression)
deriving DecidableEq, Repr

namespace Expression

/-! ### Lengths -/

/-- The least number of characters in a match. There is none for what matches nothing. -/
def shortest : Expression → Option Nat
  | empty | .at _ => some 0
  | word cs => some cs.length
  | one s => if s.isEmpty then none else some 1
  | group _ a => a.shortest
  | repeated _ low _ a => a.shortest.map (· * low)
  | seq a b => do return (← a.shortest) + (← b.shortest)
  | alt a b => do return min (← a.shortest) (← b.shortest)

/-- The greatest number of characters in a match, if there is a limit. -/
def longest : Expression → Option Nat
  | empty | .at _ => some 0
  | word cs => some cs.length
  | one s => if s.isEmpty then none else some 1
  | group _ a => a.longest
  | repeated _ _ high a => do return (← a.longest) * (← high)
  | seq a b => do return (← a.longest) + (← b.longest)
  | alt a b => do return max (← a.longest) (← b.longest)

/-- Whether every match reads a character. -/
def readsOn (a : Expression) : Bool := a.shortest.any (0 < ·)

/-- Whether no match reads a character. -/
def readsNothing (a : Expression) : Bool := a.longest == some 0

/-- Whether every match begins at the start of the text, as far as can be told from the conditions
before the first character. -/
def startsText : Expression → Bool
  | .at .textStart => true
  | group _ a => a.startsText
  | repeated _ low _ a => decide (0 < low) && a.startsText
  | seq a b => a.startsText || a.readsNothing && b.startsText
  | alt a b => a.startsText && b.startsText
  | _ => false

/-- Whether every match ends at the end of the text, as far as can be told from the conditions behind
the last character. -/
def endsText : Expression → Bool
  | .at .textEnd => true
  | group _ a => a.endsText
  | repeated _ low _ a => decide (0 < low) && a.endsText
  | seq a b => b.endsText || b.readsNothing && a.endsText
  | alt a b => a.endsText && b.endsText
  | _ => false

/-! ### Sequences -/

/-- The parts of a sequence. -/
def parts : Expression → List Expression
  | empty => []
  | seq a b => a.parts ++ b.parts
  | a => [a]

/-- Puts a part before others, joined to a word that they begin with if it is a word. -/
def joinWords (a : Expression) (rest : List Expression) : List Expression :=
  match a, rest with
  | word cs, word ds :: rest => word (cs ++ ds) :: rest
  | a, rest => a :: rest

def ofParts : List Expression → Expression
  | [] => empty
  | [a] => a
  | a :: rest => seq a (ofParts rest)

/-- What sequences keep holds of some parts one after the other if it holds of each. -/
theorem ofParts_induction {P : Expression → Prop} (hempty : P empty) (hseq : ∀ a b, P a → P b → P (seq a b))
    {as : List Expression} (h : ∀ a ∈ as, P a) : P (ofParts as) := by
  match as with
  | [] => exact hempty
  | [a] => exact h a List.mem_cons_self
  | a :: b :: rest =>
    obtain ⟨ha, hrest⟩ := List.forall_mem_cons.1 h
    exact hseq a (ofParts (b :: rest)) ha (ofParts_induction hempty hseq hrest)

def ofSeq (sequence : List Expression) : Expression :=
  ofParts ((sequence.flatMap parts).foldr joinWords [])

/-- One character out of a set, which is a word if there is only one to choose. -/
def ofSet (s : CharSet) : Expression :=
  match s.single? with
  | some c => word [c]
  | none => one s

/-! ### Alternatives -/

def branches : Expression → List Expression
  | alt a b => a.branches ++ b.branches
  | a => [a]

def ofBranches : List Expression → Expression
  | [] => one .empty
  | [a] => a
  | a :: rest => alt a (ofBranches rest)

def character? : Expression → Option CharSet
  | word [c] => some (.single c)
  | _ => none

def set? : Expression → Option CharSet
  | one s => some s
  | _ => none

/-- The set that alternatives amount to which are characters throughout, or sets throughout. -/
def setOfBranches? (branches : List Expression) : Option CharSet :=
  match branches.mapM character? with
  | some sets => some (.ofList sets)
  | none => (branches.mapM set?).map .ofList

def commonStart : List Expression → List Expression → List Expression
  | a :: as, b :: bs => if a = b then a :: commonStart as bs else []
  | _, _ => []

/-- What sequences have in common at their start, if all the alternatives are sequences. -/
def commonParts (branches : List Expression) : List Expression :=
  if branches.all (fun a => decide (1 < a.parts.length)) then
    match branches with
    | [] => []
    | a :: rest => rest.foldl (fun common b => commonStart common b.parts) a.parts
  else []

/-- Simplifies alternatives that are not nested, in at most the given number of rounds. -/
def simplify : Nat → List Expression → Expression
  | _, [a] => a
  | rounds, alternatives =>
    match setOfBranches? alternatives, rounds with
    | some s, _ => ofSet s
    | none, 0 => ofBranches alternatives
    | none, rounds + 1 =>
      match commonParts alternatives with
      | [] => ofBranches alternatives
      | common =>
        let rests := alternatives.map fun a => ofSeq (a.parts.drop common.length)
        ofSeq (common ++ [simplify rounds (rests.flatMap branches)])

/-- The number of nodes, which is more than the parts that can be taken off its start. -/
def size : Expression → Nat
  | group _ a | repeated _ _ _ a => a.size + 1
  | seq a b | alt a b => a.size + b.size + 1
  | _ => 1

def ofAlternatives (alternatives : List Expression) : Expression :=
  simplify (alternatives.foldl (fun n a => n + a.size) 0) (alternatives.flatMap branches)

/-! ### Repetition -/

/-- Repeats a pattern. To repeat what reads nothing means no more than to ask for it once. -/
def repetition (greedy : Bool) (low : Nat) (high : Option Nat) (a : Expression) : Expression :=
  let (low, high) :=
    if a.readsNothing then (min low 1, some (min (high.getD 1) 1)) else (low, high)
  if low = 0 ∧ high = some 0 then empty
  else if low = 1 ∧ high = some 1 then a
  else repeated greedy low high a

end Expression

end BundleCheck.Pattern
