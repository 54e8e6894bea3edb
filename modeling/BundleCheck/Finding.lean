/-!
# Findings

A check that is run on a file yields a section: its label and what it found. The report of a file
collects the sections that hold something. Findings are not failures; they are what the program is
asked for, and only their number decides the outcome of a run.
-/

namespace BundleCheck

inductive Severity where
  | error
  | warning
deriving DecidableEq, Repr

def Severity.name : Severity → String
  | .error => "error"
  | .warning => "warning"

/-- A line, and where it helps a column, both counted from one. -/
structure Position where
  line : Nat
  column : Option Nat
deriving DecidableEq, Repr

namespace Position

def onLine (line : Nat) : Position := ⟨line, none⟩

def atColumn (line column : Nat) : Position := ⟨line, some column⟩

def text (p : Position) : String :=
  match p.column with
  | none => toString p.line
  | some column => toString p.line ++ ":" ++ toString column

end Position

structure Finding where
  severity : Severity
  position : Option Position
  key : Option String
  message : String
deriving DecidableEq, Repr

namespace Finding

def error (position : Option Position) (key : Option String) (message : String) : Finding :=
  ⟨.error, position, key, message⟩

def warning (position : Option Position) (key : Option String) (message : String) : Finding :=
  ⟨.warning, position, key, message⟩

/-- An error when it is about an entry. What is found in a comment has no key, and stays a warning. -/
def graded (position : Option Position) (key : Option String) (message : String) : Finding :=
  if key.isSome then error position key message else warning position key message

/-- The finding on one line, its position and its key before the message where it has them. -/
def text (f : Finding) : String :=
  (match f.position with
    | some position => "Line " ++ position.text ++ ": "
    | none => "") ++
  (match f.key with
    | some key => "\"" ++ key ++ "\": "
    | none => "") ++ f.message

end Finding

/-- What one check found in one file. -/
structure Section where
  label : String
  findings : List Finding
deriving DecidableEq, Repr

namespace Section

def errors (s : Section) : Nat := s.findings.countP (·.severity = .error)

def warnings (s : Section) : Nat := s.findings.countP (·.severity = .warning)

def isEmpty (s : Section) : Bool := s.findings.isEmpty

end Section

/-- All that was found in one file. -/
structure Report where
  sections : List Section
deriving DecidableEq, Repr

namespace Report

def empty : Report := ⟨[]⟩

/-- Appends a section, unless it holds nothing. -/
def add (r : Report) (s : Section) : Report :=
  if s.isEmpty then r else ⟨r.sections ++ [s]⟩

/-- Appends a section, even one that holds nothing. -/
def addAlways (r : Report) (s : Section) : Report :=
  ⟨r.sections ++ [s]⟩

/-- A number that every section has, summed over the sections. -/
def total (r : Report) (number : Section → Nat) : Nat :=
  r.sections.foldr (fun s n => number s + n) 0

def errors (r : Report) : Nat := r.total Section.errors

def warnings (r : Report) : Nat := r.total Section.warnings

def isEmpty (r : Report) : Bool := r.errors + r.warnings == 0

/-- What counts towards the exit status: the errors, and the warnings too when those are promoted. -/
def counted (r : Report) (promote : Bool) : Nat :=
  if promote then r.errors + r.warnings else r.errors

/-- Whether the file fails the run. -/
def fails (r : Report) (promote : Bool) : Bool :=
  decide (0 < r.counted promote)

end Report

end BundleCheck
