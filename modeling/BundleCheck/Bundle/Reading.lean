import BundleCheck.Bundle.Content
import BundleCheck.Bundle.Deferral
import BundleCheck.Bundle.Line
import BundleCheck.Finding
import BundleCheck.Text.Basic

/-!
# Reading a file

Each line is read on its own, and the lines are then put together. A line that cannot be read ends the
reading, and what came before it is kept. Of entries with the same key the first is kept, and every
later one is a finding that names the line of the first. The later ones are no lines of the content, so
its line numbers fall behind those of the file from there on.
-/

namespace BundleCheck

/-- Why a line cannot be read. -/
inductive LineFault where
  | noSeparator
  | missingKey
deriving DecidableEq, Repr

def LineFault.message : LineFault → String
  | noSeparator => "no key/value separator found"
  | missingKey => "missing key before separator"

/-- A line as read, with the key that it defers if it is a comment that defers one. -/
inductive ReadLine where
  | entry (e : Entry)
  | comment (c : Comment) (deferred : Option String)
  | blank
deriving DecidableEq

namespace ReadLine

def line : ReadLine → Line
  | entry e => .entry e
  | comment c _ => .comment c
  | blank => .blank

def deferred? : ReadLine → Option String
  | comment _ deferred => deferred
  | _ => none

/-- Reads an entry: its key without white space around it, its value without white space before it. -/
def ofEntryText (line : List Char) : Except LineFault ReadLine :=
  match Separation.ofLine? line with
  | none => .error .noSeparator
  | some s =>
    let key := String.ofList s.key
    if h : Text.trim key = "" then .error .missingKey
    else
      .ok (.entry ⟨Text.trim key, s.separator, String.ofList (Text.trimStart s.value),
        Text.trim_trim key, h⟩)

/-- Reads one line, given the marker of deferred entries. -/
def ofText (marker : String) (line : List Char) : Except LineFault ReadLine :=
  if Text.isBlank line then .ok .blank
  else if startsAsComment line then
    let c := Comment.make (String.ofList line)
    .ok (.comment c (Deferral.ofComment? marker c))
  else ofEntryText line

end ReadLine

/-- The line at which a reading ended, and why. -/
structure Stop where
  line : Nat
  fault : LineFault
deriving DecidableEq, Repr

/-- How far a reading has come. -/
structure Reading where
  content : Content
  /-- The keys read so far, each with the line that holds it, the last one first. -/
  sources : List (String × Nat)
  repeated : List Finding

namespace Reading

def repeatedKeysLabel : String := "Duplicated keys"

def start : Reading := ⟨.empty, [], []⟩

def repeatedKey (number first : Nat) (key : String) : Finding :=
  .error (some (.onLine number)) (some key)
    ("Duplicated key, first occurrence at line " ++ toString first ++ ".")

/-- Adds the line with the given number. -/
def add (r : Reading) (number : Nat) : ReadLine → Reading
  | .entry e =>
    match r.sources.lookup e.key with
    | some first => { r with repeated := r.repeated ++ [repeatedKey number first e.key] }
    | none =>
      { r with content := r.content.pushEntry e, sources := (e.key, number) :: r.sources }
  | .comment c deferred => { r with content := (r.content.deferAny deferred).pushComment c }
  | .blank => { r with content := r.content.pushBlank }

/-- Reads lines of which the first has the given number, up to one that cannot be read. -/
def addLines (marker : String) (r : Reading) (number : Nat) :
    List (List Char) → Reading × Option Stop
  | [] => (r, none)
  | line :: rest =>
    match ReadLine.ofText marker line with
    | .error fault => (r, some ⟨number, fault⟩)
    | .ok l => addLines marker (r.add number l) (number + 1) rest

/-- Reads a text, as far as it can be read. -/
def ofText (marker : String) (text : String) : Reading × Option Stop :=
  start.addLines marker 1 (Text.lines text.toList)

/-- The findings of the reading itself. -/
def repeatedKeys (r : Reading) : Section := ⟨repeatedKeysLabel, r.repeated⟩

end Reading

end BundleCheck
