import BundleCheck.Bundle.Content
import BundleCheck.Check.Options
import BundleCheck.Finding

/-!
# Nesting of paired characters

Brackets and directional quotation marks come in pairs, an opening character and its closing one, and
pairs have to nest. A value is read from left to right with the opening characters that still wait for
their partners on a stack, and reading stops at the first fault, so a value has one finding at most.

A character can be listed on both sides. It closes a pair if it is the partner of the innermost opening
character, and opens one otherwise.
-/

namespace BundleCheck.Nesting

/-- What is wrong with a value. Columns are counted from one. -/
inductive Fault where
  | noOpening (column : Nat) (found : Char)
  | wrongClosing (column : Nat) (expected found : Char)
  | noClosing (column : Nat) (opening : Char)
deriving DecidableEq, Repr

namespace Fault

def column : Fault → Nat
  | noOpening column _ | wrongClosing column _ _ | noClosing column _ => column

def message : Fault → String
  | noOpening _ found => "No opening character matching \"" ++ found.toString ++ "\"."
  | wrongClosing _ expected found =>
    "Expected \"" ++ expected.toString ++ "\", found \"" ++ found.toString ++ "\"."
  | noClosing _ opening => "No closing character for \"" ++ opening.toString ++ "\"."

end Fault

/-- An opening character that waits for its partner: which pair it begins, and its column. -/
structure Pending where
  pair : Nat
  column : Nat
deriving DecidableEq, Repr

def isQuote (c : Char) : Bool := c == '"' || c == '\''

/-- Whether a place between two characters is within quotes of one kind. -/
def isQuoted (before after : Option Char) : Bool :=
  before == after && before.any isQuote

/-- What a character does to the opening characters that wait, the innermost of which is first. -/
def step (opening closing : List Char) (column : Nat) (c : Char) (stack : List Pending) :
    Except Fault (List Pending) :=
  match stack with
  | top :: rest =>
    if closing[top.pair]? = some c then .ok rest
    else
      match opening.idxOf? c with
      | some pair => .ok (⟨pair, column⟩ :: stack)
      | none =>
        match closing.idxOf? c with
        | none => .ok stack
        | some pair =>
          if pair = top.pair then .ok rest
          else .error (.wrongClosing column (closing.getD top.pair c) c)
  | [] =>
    match opening.idxOf? c with
    | some pair => .ok [⟨pair, column⟩]
    | none => if closing.contains c then .error (.noOpening column c) else .ok []

/-- Reads the rest of a value, which begins at the given column behind the character `before`. -/
def faultFrom? (opening closing : List Char) (ignoreQuoted : Bool) (before : Option Char)
    (column : Nat) (stack : List Pending) : List Char → Option Fault
  | [] =>
    stack.getLast?.map fun first => .noClosing first.column (opening.getD first.pair ' ')
  | c :: rest =>
    if ignoreQuoted && isQuoted before rest.head? then
      faultFrom? opening closing ignoreQuoted (some c) (column + 1) stack rest
    else
      match step opening closing column c stack with
      | .error fault => some fault
      | .ok stack => faultFrom? opening closing ignoreQuoted (some c) (column + 1) stack rest

/-- The first fault of a value. -/
def fault? (opening closing : List Char) (ignoreQuoted : Bool) (value : List Char) : Option Fault :=
  faultFrom? opening closing ignoreQuoted none 1 [] value

def nothingConfigured : Finding := .warning none none "No brackets configured."

def unevenLists (opening closing : Nat) : Finding :=
  .error none none
    ("Opening and closing bracket lists differ in length (" ++ toString opening ++ " vs " ++
      toString closing ++ ").")

/-- The finding on one line. -/
def inspectLine (o : PairOptions) (number : Nat) (line : Line) : List Finding :=
  match line.inspected? o.comments with
  | none => []
  | some value =>
    (fault? o.opening o.closing o.ignoreQuoted value.toList).toList.map fun fault =>
      .graded (some (.atColumn number fault.column)) line.key? fault.message

/-- The findings on a file. Lists that do not pair up are a finding of their own, and nothing is read
then. -/
def findings (o : PairOptions) (d : Content) : List Finding :=
  if o.opening.isEmpty || o.closing.isEmpty then [nothingConfigured]
  else if o.opening.length ≠ o.closing.length then
    [unevenLists o.opening.length o.closing.length]
  else d.inspect (inspectLine o)

end BundleCheck.Nesting
