import BundleCheck.Pattern.Expression
import BundleCheck.Pattern.Property

/-!
# Matching

A text is read from its end to its start. At each place it is known, for every character of the pattern,
what becomes of the match if that character is the one read just before the place: where the whole match
ends then, by the first way that succeeds. That is the outlook of the place. From it the outlook of the
place before follows by one pass over the pattern, so the cost of a search is the product of the lengths
of text and pattern, however many ways there are to match. The same pass tells whether a match begins at
the place, and where it ends.
-/

namespace BundleCheck.Pattern

/-! ### Places in a text -/

/-- A place in a text, with the characters on its two sides. -/
structure Gap where
  before : Option Char
  after : Option Char
deriving DecidableEq, Repr

namespace Gap

/-- Whether there is a line feed behind the place, and a carriage return before it. -/
def isInBreak (g : Gap) : Bool := g.before == some '\r' && g.after == some '\n'

/-- The places of a text, of which there is one more than there are characters. -/
def ofText (text : List Char) : List Gap :=
  List.zipWith Gap.mk (none :: text.map some) (text.map some ++ [none])

end Gap

/-- Whether the condition holds where there is a word before the place, and where there is one behind
it. -/
def WordPlace.holds (p : WordPlace) (before after : Bool) : Bool :=
  match p with
  | boundary => before != after
  | noBoundary => before == after
  | start => !before && after
  | «end» => before && !after
  | noneBefore => !before
  | noneAfter => !after

def Place.holds (p : Place) (g : Gap) : Bool :=
  let endsLine (returns : Bool) (c : Char) : Bool := c == '\n' || returns && c == '\r'
  match p with
  | textStart => g.before.isNone
  | textEnd => g.after.isNone
  | lineStart returns => g.before.all (endsLine returns) && !(returns && g.isInBreak)
  | lineEnd returns => g.after.all (endsLine returns) && !(returns && g.isInBreak)
  | words p ascii =>
    let chars := if ascii then CharSet.asciiWordChars else Property.wordChars
    p.holds (g.before.any chars.contains) (g.after.any chars.contains)

/-! ### Outlooks -/

/-- Where a match ends, as the number of characters behind it. -/
abbrev Ending := Option Nat

/-- A pattern with its counts written out, and with each of its characters the ending that follows once
that character has been read. -/
inductive Outlook where
  | empty
  | one (s : CharSet) (next : Ending)
  | at (p : Place)
  | seq (a b : Outlook)
  | alt (a b : Outlook)
  /-- A part that can be left early. -/
  | block (a : Outlook)
  /-- Either `a` is matched, or the block around it is left. -/
  | orLeave (greedy : Bool) (a : Outlook)
  /-- One round or more. -/
  | rounds (greedy : Bool) (a : Outlook)

namespace Outlook

/-- Where the match ends that goes on with `a` at a place. What comes behind `a` ends at `exit`, and what
comes behind the block that holds `a` ends at `left`.

A round that reads nothing is the last one, so the ending of a repetition that is entered is that of its
first round. -/
def ending (g : Gap) : Outlook → Ending → Ending → Ending
  | empty, exit, _ => exit
  | one s next, _, _ => next.filter fun _ => g.after.any s.contains
  | .at p, exit, _ => if p.holds g then exit else none
  | seq a b, exit, left => a.ending g (b.ending g exit left) left
  | alt a b, exit, left => (a.ending g exit left).or (b.ending g exit left)
  | block a, exit, _ => a.ending g exit exit
  | orLeave greedy a, exit, left =>
    if greedy then (a.ending g exit left).or left else left.or (a.ending g exit left)
  | rounds _ a, exit, left => a.ending g exit left

/-- The ending behind a round that has read something. Another round is worth a try only if it reads
something too. -/
def again (g : Gap) (greedy : Bool) (a : Outlook) (exit left : Ending) : Ending :=
  if greedy then (a.ending g none left).or exit else exit.or (a.ending g none left)

/-- The ending at a place, together with the outlook of that place. The outlook before was that of the
place behind the next character. -/
def advance (g : Gap) : Outlook → Ending → Ending → Ending × Outlook
  | empty, exit, _ => (exit, empty)
  | one s next, exit, _ => (next.filter fun _ => g.after.any s.contains, one s exit)
  | .at p, exit, _ => (if p.holds g then exit else none, .at p)
  | seq a b, exit, left =>
    let (exit, b) := b.advance g exit left
    let (found, a) := a.advance g exit left
    (found, seq a b)
  | alt a b, exit, left =>
    let (first, a) := a.advance g exit left
    let (second, b) := b.advance g exit left
    (first.or second, alt a b)
  | block a, exit, _ =>
    let (found, a) := a.advance g exit exit
    (found, block a)
  | orLeave greedy a, exit, left =>
    let (found, a) := a.advance g exit left
    (if greedy then found.or left else left.or found, orLeave greedy a)
  | rounds greedy a, exit, left =>
    (a.ending g exit left, rounds greedy (a.advance g (again g greedy a exit left) left).2)

/-- The pass tells the ending that `ending` does. -/
theorem advance_fst (g : Gap) (a : Outlook) (exit left : Ending) :
    (a.advance g exit left).1 = a.ending g exit left := by
  induction a generalizing exit left with
  | empty | one | «at» => rfl
  | seq a b iha ihb => simp [advance, ending, iha, ihb]
  | alt a b iha ihb => simp [advance, ending, iha, ihb]
  | block a ih => simp [advance, ending, ih]
  | orLeave greedy a ih => simp [advance, ending, ih]
  | rounds greedy a ih => simp [advance, ending]

/-! ### Writing out a pattern -/

/-- So many copies in a row, halved again and again so that the tree stays low. There are at most
`steps` halvings. -/
def copies (a : Outlook) : Nat → Nat → Outlook
  | _, 0 => empty
  | _, 1 => a
  | 0, _ => empty
  | steps + 1, n => seq (copies a steps (n / 2)) (copies a steps (n - n / 2))

def times (n : Nat) (a : Outlook) : Outlook := copies a n n

def upTo (greedy : Bool) (n : Nat) (a : Outlook) : Outlook := block (times n (orLeave greedy a))

/-- The written form of a repetition. -/
def repeated (greedy : Bool) (low : Nat) (high : Option Nat) (a : Outlook) : Outlook :=
  match low, high with
  | 0, none => block (orLeave greedy (rounds greedy a))
  | 1, none => rounds greedy a
  | low + 1, none => seq (times low a) (rounds greedy a)
  | 0, some high => upTo greedy high a
  | low, some high =>
    if high ≤ low then times low a else seq (times low a) (upTo greedy (high - low) a)

def ofWord : List Char → Outlook
  | [] => empty
  | [c] => one (.single c) none
  | c :: rest => seq (one (.single c) none) (ofWord rest)

/-- The outlook behind the end of a text, where no character can have been read. -/
def ofExpression : Expression → Outlook
  | .empty => empty
  | .word cs => ofWord cs
  | .one s => one s none
  | .at p => .at p
  | .group _ a => ofExpression a
  | .repeated greedy low high a => repeated greedy low high (ofExpression a)
  | .seq a b => seq (ofExpression a) (ofExpression b)
  | .alt a b => alt (ofExpression a) (ofExpression b)

end Outlook

/-! ### Search -/

/-- How far a text has been read from its end: the outlook there, the number of characters read, and the
endings of the matches that begin at the places passed, the last place first. -/
structure Scan where
  outlook : Outlook
  read : Nat
  endings : List Ending

namespace Scan

def start (a : Expression) : Scan := ⟨.ofExpression a, 0, []⟩

def step (g : Gap) (s : Scan) : Scan :=
  let (ending, outlook) := s.outlook.advance g (some s.read) none
  ⟨outlook, s.read + 1, ending :: s.endings⟩

end Scan

/-- A match: how many characters stand before it, and its text. -/
structure Match where
  start : Nat
  text : List Char
deriving DecidableEq, Repr

namespace Expression

/-- For each place of a text, where the match ends that begins there. -/
def endings (a : Expression) (text : List Char) : List Ending :=
  ((Gap.ofText text).foldr Scan.step (.start a)).endings

/-- The first match in a text. -/
def find? (a : Expression) (text : List Char) : Option Match :=
  (a.endings text).zipIdx.findSome? fun (ending, start) =>
    ending.map fun behind => ⟨start, (text.drop start).take (text.length - start - behind)⟩

def occursIn (a : Expression) (text : List Char) : Bool :=
  (a.endings text).any Option.isSome

end Expression

end BundleCheck.Pattern
