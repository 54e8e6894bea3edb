import BundleCheck.Pattern.Matching

/-!
# Captures

The numbered groups of a pattern take hold of parts of the text. What they take depends on the way in which
the pattern matches, so the ways are followed one by one here, those that are preferred before the others.
Of a match in a text, the groups are those of the first way at the first place where there is one.
-/

namespace BundleCheck.Pattern

/-! ### Cursors -/

/-- A place to read on from: the character before it, if there is one, and the text behind it. -/
structure Cursor where
  before : Option Char
  ahead : List Char
deriving DecidableEq, Repr

namespace Cursor

def gap (x : Cursor) : Gap := ⟨x.before, x.ahead.head?⟩

/-- The cursor behind the next character. -/
def next? (x : Cursor) : Option Cursor :=
  match x.ahead with
  | [] => none
  | c :: rest => some ⟨some c, rest⟩

/-- The cursor behind the next character, if that is in the set. -/
def behindOne? (s : CharSet) (x : Cursor) : Option Cursor :=
  if x.ahead.head?.any s.contains then x.next? else none

/-- The cursor behind the given characters, if they come next. -/
def behindWord? : List Char → Cursor → Option Cursor
  | [], x => some x
  | c :: cs, x => if x.ahead.head? = some c then x.next?.bind (behindWord? cs) else none

/-- The places of a text that has the given character before it. -/
def ofText (before : Option Char) : List Char → List Cursor
  | [] => [⟨before, []⟩]
  | c :: rest => ⟨before, c :: rest⟩ :: ofText (some c) rest

end Cursor

/-! ### Trails -/

/-- How far a match has come, and what its groups have taken so far, the last of it first. -/
@[ext] structure Trail where
  cursor : Cursor
  taken : List (Nat × List Char)
deriving DecidableEq, Repr

namespace Trail

def moved (t : Trail) (x : Option Cursor) : List Trail := x.toList.map fun x => { t with cursor := x }

/-- Whether there is text between two trails. -/
def isBehind (t u : Trail) : Bool := decide (u.cursor.ahead.length < t.cursor.ahead.length)

/-- The text from one trail to another. -/
def passed (t u : Trail) : List Char :=
  t.cursor.ahead.take (t.cursor.ahead.length - u.cursor.ahead.length)

/-- The second trail, after the group has taken the text from the first one on. -/
def close (number : Nat) (t u : Trail) : Trail := { u with taken := (number, t.passed u) :: u.taken }

/-! ### Repetition -/

/-- The ways on from a trail, the preferred ones first. -/
abbrev Round := Trail → List Trail

/-- Going on is preferred to staying if the repetition is greedy. -/
def orStay (greedy : Bool) (on : List Trail) (t : Trail) : List Trail :=
  if greedy then on ++ [t] else t :: on

def times (round : Round) : Nat → Round
  | 0, t => [t]
  | n + 1, t => (round t).flatMap (times round n)

def upTo (greedy : Bool) (round : Round) : Nat → Round
  | 0, t => [t]
  | n + 1, t => orStay greedy ((round t).flatMap (upTo greedy round n)) t

/-- Further rounds, of which each has to read something, so that no more than `steps` are needed if there
are so many characters ahead. -/
def further (greedy : Bool) (round : Round) : Nat → Round
  | 0, t => [t]
  | steps + 1, t => orStay greedy (((round t).filter t.isBehind).flatMap (further greedy round steps)) t

/-- One round or more. A first round that reads nothing is the last one. -/
def rounds (greedy : Bool) (round : Round) : Round := fun t =>
  (round t).flatMap fun u =>
    if t.isBehind u then further greedy round u.cursor.ahead.length u else [u]

def repeated (greedy : Bool) (low : Nat) (high : Option Nat) (round : Round) : Round := fun t =>
  match low, high with
  | 0, none => orStay greedy (rounds greedy round t) t
  | low + 1, none => (times round low t).flatMap (rounds greedy round)
  | low, some high => (times round low t).flatMap (upTo greedy round (high - low))

end Trail

namespace Expression

/-! ### Matches and their groups -/

/-- The ways to match from a trail on, the preferred ones first. -/
def trails : Expression → Trail → List Trail
  | empty, t => [t]
  | word cs, t => t.moved (t.cursor.behindWord? cs)
  | one s, t => t.moved (t.cursor.behindOne? s)
  | .at p, t => if p.holds t.cursor.gap then [t] else []
  | group number a, t => (a.trails t).map (t.close number)
  | repeated greedy low high a, t => Trail.repeated greedy low high a.trails t
  | seq a b, t => (a.trails t).flatMap b.trails
  | alt a b, t => a.trails t ++ b.trails t

/-- The first way to match, at the first place of a text where there is one. -/
def trail? (a : Expression) (text : List Char) : Option Trail :=
  (Cursor.ofText none text).findSome? fun x => (a.trails ⟨x, []⟩).head?

/-- What the group with the given number takes in the first match of a text. -/
def capture? (a : Expression) (number : Nat) (text : List Char) : Option (List Char) :=
  (a.trail? text).bind (·.taken.lookup number)

end Expression

end BundleCheck.Pattern
