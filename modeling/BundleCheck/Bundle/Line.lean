import BundleCheck.Text.Basic

/-!
# Lines of a translation file

A file is a sequence of lines: entries, comments and blank lines. The types hold what every line
satisfies. The key of an entry is trimmed and not empty, its separator is one of two, and a comment
begins with its marker.
-/

namespace BundleCheck

/-- What stands between a key and its value. -/
inductive Separator where
  | equals
  | colon
deriving DecidableEq, Repr

namespace Separator

def char : Separator → Char
  | equals => '='
  | colon => ':'

def all : List Separator := [equals, colon]

def ofChar? (c : Char) : Option Separator :=
  if c = '=' then some equals else if c = ':' then some colon else none

end Separator

/-- Whether the character can stand between key and value. -/
def isSeparator (c : Char) : Bool := (Separator.ofChar? c).isSome

/-- The characters that begin comments. -/
def commentMarkers : List Char := ['#', '!']

/-- Whether the character begins a comment. -/
def isCommentMarker (c : Char) : Bool := c == '#' || c == '!'

/-! ### Entries -/

/-- A key and its value. -/
structure Entry where
  key : String
  separator : Separator
  value : String
  key_trimmed : Text.trim key = key
  key_ne_empty : key ≠ ""
deriving DecidableEq

/-- Why given parts make no entry. -/
inductive EntryFault where
  | emptyKey
  | invalidSeparator (separator : Char) (key : String)
deriving DecidableEq, Repr

def EntryFault.reason : EntryFault → String
  | emptyKey => "translation key must not be empty"
  | invalidSeparator separator key =>
    "invalid separator \"" ++ separator.toString ++ "\" for key \"" ++ key ++ "\""

def EntryFault.message (f : EntryFault) : String := "Invalid item: " ++ f.reason

namespace Entry

/-- The entry with the given parts. The white space around the key is no part of it. -/
def make? (key : String) (separator : Char) (value : String) : Except EntryFault Entry :=
  if h : Text.trim key = "" then .error .emptyKey
  else
    match Separator.ofChar? separator with
    | none => .error (.invalidSeparator separator (Text.trim key))
    | some separator => .ok ⟨Text.trim key, separator, value, Text.trim_trim key, h⟩

/-- The written form of an entry. -/
def text (e : Entry) : String :=
  e.key ++ " " ++ e.separator.char.toString ++ " " ++ e.value

end Entry

/-! ### Comments -/

/-- Whether the text begins as a comment does. -/
def startsAsComment (s : List Char) : Bool :=
  s.head?.any isCommentMarker

/-- A whole comment line with its marker. -/
structure Comment where
  text : String
  marked : startsAsComment text.toList = true
deriving DecidableEq

/-- The comment with the given text, behind a marker of its own if it has none. -/
def Comment.make (s : String) : Comment :=
  if h : startsAsComment s.toList = true then ⟨s, h⟩
  else ⟨"# " ++ s, by simp [startsAsComment, isCommentMarker]⟩

/-! ### Lines -/

/-- One line of a file. -/
inductive Line where
  | entry (e : Entry)
  | comment (c : Comment)
  | blank
deriving DecidableEq

namespace Line

/-- The written form of a line, without its terminator. -/
def text : Line → String
  | entry e => e.text
  | comment c => c.text
  | blank => ""

def entry? : Line → Option Entry
  | entry e => some e
  | _ => none

def key? (l : Line) : Option String := l.entry?.map Entry.key

/-- The entry of a line, if it has the given key. -/
def entryFor? (key : String) : Line → Option Entry
  | entry e => if e.key = key then some e else none
  | _ => none

theorem isSome_entryFor? {key : String} {l : Line} :
    (l.entryFor? key).isSome ↔ l.key? = some key := by
  cases l with
  | entry e => by_cases h : e.key = key <;> simp [entryFor?, key?, entry?, h]
  | comment c => simp [entryFor?, key?, entry?]
  | blank => simp [entryFor?, key?, entry?]

/-- What checks look at: the value of an entry, and the whole of a comment. -/
def content? : Line → Option String
  | entry e => some e.value
  | comment c => some c.text
  | blank => none

/-- What a check looks at that leaves comments alone unless it is told to read them too. -/
def inspected? (comments : Bool) : Line → Option String
  | entry e => some e.value
  | comment c => if comments then some c.text else none
  | blank => none

end Line

/-! ### Key and value of a line

A line is cut at its first separator. A backslash takes the meaning from the character after it, so
a separator behind an odd run of backslashes belongs to the key, and one behind an even run does not. -/

/-- A line cut at a separator, with nothing trimmed. -/
structure Separation where
  key : List Char
  separator : Separator
  value : List Char
deriving DecidableEq, Repr

namespace Separation

/-- The separator that the character is, unless it is escaped. -/
def boundary? (escaped : Bool) (c : Char) : Option Separator :=
  if escaped then none else Separator.ofChar? c

/-- Cuts the rest of a line, given whether its first character is escaped. -/
def ofRest? (escaped : Bool) : List Char → Option Separation
  | [] => none
  | c :: rest =>
    match boundary? escaped c with
    | some separator => some ⟨[], separator, rest⟩
    | none => (ofRest? (c == '\\' && !escaped) rest).map fun s => { s with key := c :: s.key }

/-- Cuts a line at its first separator that is not escaped. -/
def ofLine? (line : List Char) : Option Separation :=
  ofRest? false line

/-- The line that was cut. -/
def line (s : Separation) : List Char :=
  s.key ++ s.separator.char :: s.value

end Separation

end BundleCheck
