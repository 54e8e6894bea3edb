import BundleCheck.Bundle.Line

/-!
# Content of a translation file

The lines of a file, and an index of them that is kept along: the keys of the entries in order, the same
keys once more for looking up, and the keys that comments defer. Each operation writes to all parts that
it touches, so that the parts agree is a property of the operations and not of the type. The deferred
keys cannot be read off the lines again, because what defers a key depends on the deferral marker of the
time.
-/

namespace BundleCheck

/-- The keys of the entries among some lines, in order. -/
def keysOf (lines : List Line) : List String :=
  lines.filterMap Line.key?

@[simp] theorem keysOf_append (l₁ l₂ : List Line) : keysOf (l₁ ++ l₂) = keysOf l₁ ++ keysOf l₂ := by
  simp [keysOf]

@[simp] theorem keysOf_entry (e : Entry) : keysOf [.entry e] = [e.key] := rfl

@[simp] theorem keysOf_comment (c : Comment) : keysOf [.comment c] = [] := rfl

@[simp] theorem keysOf_blank : keysOf [.blank] = [] := rfl

structure Content where
  lines : List Line
  /-- The keys of the entries, in file order. -/
  keys : List String
  /-- The same keys for looking up, where their order means nothing. -/
  known : List String
  deferred : List String
deriving DecidableEq

/-- An entry cannot be appended, because there is one with its key. -/
structure RepeatedKey where
  key : String
deriving DecidableEq, Repr

def RepeatedKey.message (e : RepeatedKey) : String := "Duplicated key: \"" ++ e.key ++ "\""

namespace Content

def empty : Content := ⟨[], [], [], []⟩

/-- The first entry with the given key. -/
def entry? (d : Content) (key : String) : Option Entry :=
  d.lines.findSome? (Line.entryFor? key)

def contains (d : Content) (key : String) : Bool := d.known.contains key

/-- The value under the given key. -/
def value? (d : Content) (key : String) : Option String :=
  (d.entry? key).map Entry.value

def defers (d : Content) (key : String) : Bool := d.deferred.contains key

/-! ### Growth -/

/-- Appends an entry, whose key has to be new. -/
def pushEntry (d : Content) (e : Entry) : Content :=
  { d with
    lines := d.lines ++ [.entry e]
    keys := d.keys ++ [e.key]
    known := d.known.insert e.key }

def pushComment (d : Content) (c : Comment) : Content :=
  { d with lines := d.lines ++ [.comment c] }

def pushBlank (d : Content) : Content :=
  { d with lines := d.lines ++ [.blank] }

/-- Records a key as deferred, once. -/
def defer (d : Content) (key : String) : Content :=
  if d.defers key then d else { d with deferred := d.deferred ++ [key] }

/-- Records the key that a comment defers, if it defers one. -/
def deferAny (d : Content) (key : Option String) : Content :=
  match key with
  | some key => d.defer key
  | none => d

/-- Appends a line, unless it is an entry whose key is taken. That key is then the answer. -/
def append (d : Content) (line : Line) : Except RepeatedKey Content :=
  match line with
  | .entry e => if d.contains e.key then .error ⟨e.key⟩ else .ok (d.pushEntry e)
  | .comment c => .ok (d.pushComment c)
  | .blank => .ok d.pushBlank

/-! ### Written form -/

/-- The lines with a line feed between them. -/
def text (d : Content) : String :=
  "\n".intercalate (d.lines.map Line.text)

/-! ### Going over the lines -/

/-- What is found line by line, lines counted from one. -/
def inspect (d : Content) {α : Type} (f : Nat → Line → List α) : List α :=
  (d.lines.zipIdx 1).flatMap fun (line, number) => f number line

end Content

end BundleCheck
