import BundleCheck.Pattern.Footprint
import BundleCheck.Pattern.Property
import BundleCheck.Text.Basic
import BundleCheck.Unicode.Property

/-!
# Reading patterns

The written form of patterns: literal characters, the dot, anchors, escapes, bracket expressions,
groups with or without a name, alternatives, and repetitions, greedy or lazy. Of the flags, `i`
ignores case, `m` lets the anchors hold at lines, `s` lets the dot take a line feed, `R` lets a carriage
return end a line, `U` turns lazy and greedy round, and `x` leaves room for white space and comments. The
flag `u` is on at first. Where it is off, classes, words and cases are those of ASCII, and nothing is
allowed that would take a part of another character. Whatever else has a meaning in other dialects
(references to groups, conditions that look ahead or back) is refused, so no pattern means something
unexpected. So is a pattern that is nested too deeply, or whose counts make it too large.

The reader goes through the characters once. It keeps the groups that are still open on a stack, and
inside brackets the bracket expressions that are.
-/

namespace BundleCheck.Pattern

/-- Why a text is no pattern. -/
inductive Fault where
  | unopenedGroup
  | unclosedGroup
  | unclosedClass
  | nothingToRepeat
  | invalidCount
  | invalidEscape
  | invalidCodePoint
  | unknownProperty
  | invalidRange
  | invalidGroupName
  | invalidFlags
  | lookAround
  | beyondAscii
  | tooDeep
  | tooLarge
deriving DecidableEq, Repr

/-- What was read, and what is left to read. -/
abbrev Rest (α : Type) := α × List Char

/-! ### Nesting -/

/-- What was read, with the number of levels in it. Every bracket expression, operation of sets, group
and repetition is a level, and so are several parts of a sequence, several alternatives and several
members of a set. -/
structure Nested (α : Type) where
  depth : Nat
  value : α
deriving DecidableEq, Repr

/-- What has no levels in it. -/
def Nested.flat {α : Type} (a : α) : Nested α := ⟨0, a⟩

/-- The levels in what has the given levels in its parts. A single part does not add one. -/
def depthOf : List Nat → Nat
  | [] => 0
  | [depth] => depth
  | depths => 1 + depths.max?.getD 0

/-- The most levels that a pattern can have. -/
def maxDepth : Nat := 250

/-! ### Flags -/

structure Flags where
  ignoreCase : Bool := false
  lines : Bool := false
  dotTakesLineFeed : Bool := false
  /-- A carriage return ends a line too. -/
  returns : Bool := false
  swapGreed : Bool := false
  /-- White space means nothing, and a number sign begins a comment. -/
  spaced : Bool := false
  ascii : Bool := false
deriving DecidableEq, Repr

namespace Flags

/-- The flags after switching one of them. -/
def switch? (f : Flags) (on : Bool) : Char → Option Flags
  | 'i' => some { f with ignoreCase := on }
  | 'm' => some { f with lines := on }
  | 's' => some { f with dotTakesLineFeed := on }
  | 'R' => some { f with returns := on }
  | 'U' => some { f with swapGreed := on }
  | 'x' => some { f with spaced := on }
  | 'u' => some { f with ascii := !on }
  | _ => none

/-- The set up to case, if case is ignored. -/
def folded (f : Flags) (s : CharSet) : CharSet :=
  if !f.ignoreCase then s else if f.ascii then s.upToAsciiCase else s.upToCase

/-- Whether the set can stand in a pattern. -/
def admits (f : Flags) (s : CharSet) : Bool := !f.ascii || s.isAscii

/-- What a dot stands for. -/
def dot? (f : Flags) : Option CharSet :=
  if f.ascii then none
  else if f.dotTakesLineFeed || !f.returns then some (.dot f.dotTakesLineFeed)
  else some .dotBeforeReturn

/-- Whether the character is no part of the pattern but begins a comment or is white space. -/
def ignores (f : Flags) (c : Char) : Bool := f.spaced && (Unicode.isWhiteSpace c || c == '#')

/-- The characters of a text that are part of the pattern, each with the text behind it. A comment goes
on to the end of its line. -/
def significantFrom (f : Flags) (inComment : Bool) : List Char → List (Char × List Char)
  | [] => []
  | c :: rest =>
    if inComment then f.significantFrom (c != '\n') rest
    else if f.ignores c then f.significantFrom (c == '#') rest
    else (c, rest) :: f.significantFrom false rest

def significant (f : Flags) (text : List Char) : List (Char × List Char) := f.significantFrom false text

/-- The text that some of these characters stand at the head of. -/
def textOf : List (Char × List Char) → List Char
  | [] => []
  | (c, rest) :: _ => c :: rest

/-- The text behind white space and comments. -/
def skip (f : Flags) (text : List Char) : List Char :=
  if f.spaced then textOf (f.significant text) else text

end Flags

/-- Reads flags up to a colon or a parenthesis, which is returned with them. No flag can be given
twice, and there is one hyphen at most, which has to have a flag behind it. -/
def readFlags (flags : Flags) (given : List Char) : List Char → Except Fault (Rest (Flags × List Char × Char))
  | [] => .error .unclosedGroup
  | c :: rest =>
    if c = ':' ∨ c = ')' then
      if given.head? = some '-' then .error .invalidFlags else .ok ((flags, given, c), rest)
    else if given.contains c then .error .invalidFlags
    else if c = '-' then readFlags flags ('-' :: given) rest
    else
      match flags.switch? (!given.contains '-') c with
      | none => .error .invalidFlags
      | some flags => readFlags flags (c :: given) rest

/-! ### Escapes -/

/-- What an escape stands for. -/
inductive Escaped where
  | literal (c : Char)
  | set (s : CharSet)
  | place (p : Place)
deriving DecidableEq, Repr

/-- The character with the given code point, unless there is none. -/
def charOfNat? (n : Nat) : Option Char :=
  if n.isValidChar then some (Char.ofNat n) else none

/-- The character that some digits stand for. A byte is no character of its own beyond ASCII. -/
def literalOfHex (isByte : Bool) (digits rest : List Char) : Except Fault (Rest Escaped) :=
  match (Text.hexValue? digits).bind charOfNat? with
  | some c => if isByte && decide (0x80 ≤ c.toNat) then .error .beyondAscii else .ok (.literal c, rest)
  | none => .error .invalidCodePoint

/-- The text up to a closing brace, and what follows the brace. -/
def readBraced (flags : Flags) (text : List Char) : Option (List Char × List Char) :=
  let chars := flags.significant text
  match chars.dropWhile (·.1 != '\x7d') with
  | [] => none
  | (_, rest) :: _ => some ((chars.takeWhile (·.1 != '\x7d')).map Prod.fst, rest)

/-- Reads a code point in hexadecimal digits, of which there are `digits` unless braces hold them. Two
digits are a byte where the pattern keeps to ASCII. -/
def readCodePoint (flags : Flags) (digits : Nat) (text : List Char) : Except Fault (Rest Escaped) :=
  match flags.significant text with
  | ('\x7b', rest) :: _ =>
    match readBraced flags rest with
    | some (code, rest) => if code.isEmpty then .error .invalidCodePoint else literalOfHex false code rest
    | none => .error .invalidEscape
  | chars =>
    if chars.length < digits then .error .invalidEscape
    else
      literalOfHex (flags.ascii && digits == 2) ((chars.take digits).map Prod.fst)
        (Flags.textOf (chars.drop digits))

/-- The set of a property, up to case if case is ignored. -/
def propertySet (flags : Flags) (negated : Bool) (text rest : List Char) : Except Fault (Rest Escaped) :=
  if flags.ascii then .error .beyondAscii
  else
    match Property.ofText? text with
    | some (without, p) => .ok (.set (.negatedIf (negated != without) (flags.folded p.chars)), rest)
    | none => .error .unknownProperty

/-- Reads a property, a single letter unless braces hold it. -/
def readProperty (flags : Flags) (negated : Bool) (text : List Char) : Except Fault (Rest Escaped) :=
  match flags.skip text with
  | [] => .error .invalidEscape
  | '\x7b' :: rest =>
    match readBraced flags rest with
    | some (text, rest) => propertySet flags negated text rest
    | none => .error .invalidEscape
  | c :: rest => propertySet flags negated [c] rest

/-- Reads what can follow a word boundary in braces. Braces that hold no name are a count. -/
def readBoundary (flags : Flags) (text : List Char) : Except Fault (Rest Escaped) :=
  let condition (p : WordPlace) (rest : List Char) : Except Fault (Rest Escaped) :=
    .ok (.place (.words p flags.ascii), rest)
  match text with
  | '\x7b' :: rest =>
    match flags.skip rest with
    | [] => .error .invalidEscape
    | c :: _ =>
      if c.isAlpha || c == '-' then
        match readBraced flags rest with
        | none => .error .invalidEscape
        | some (name, rest) =>
          match String.ofList name with
          | "start" => condition .start rest
          | "end" => condition .end rest
          | "start-half" => condition .noneBefore rest
          | "end-half" => condition .noneAfter rest
          | _ => .error .invalidEscape
      else condition .boundary text
  | _ => condition .boundary text

/-- Whether a backslash before the character makes it literal: all of ASCII but letters and digits,
and but the angle brackets, which have a meaning of their own behind a backslash. -/
def isEscapable (c : Char) : Bool :=
  decide (c.toNat < 0x80) && !c.isAlphanum && c != '<' && c != '>'

/-- Reads what follows a backslash. -/
def readEscape (flags : Flags) (text : List Char) : Except Fault (Rest Escaped) :=
  match text with
  | [] => .error .invalidEscape
  | c :: rest =>
    let set (s : CharSet) : Except Fault (Rest Escaped) :=
      if flags.admits s then .ok (.set s, rest) else .error .beyondAscii
    let chars (all ascii : CharSet) : CharSet := if flags.ascii then ascii else all
    let words (p : WordPlace) : Except Fault (Rest Escaped) := .ok (.place (.words p flags.ascii), rest)
    if isEscapable c then .ok (.literal c, rest)
    else
      match c with
      | 'd' => set (chars Property.digitChars .asciiDigitChars)
      | 'D' => set (chars Property.digitChars .asciiDigitChars).complement
      | 's' => set (chars Property.whiteSpaceChars .asciiSpaceChars)
      | 'S' => set (chars Property.whiteSpaceChars .asciiSpaceChars).complement
      | 'w' => set (chars Property.wordChars .asciiWordChars)
      | 'W' => set (chars Property.wordChars .asciiWordChars).complement
      | 'p' => readProperty flags false rest
      | 'P' => readProperty flags true rest
      | 'x' => readCodePoint flags 2 rest
      | 'u' => readCodePoint flags 4 rest
      | 'U' => readCodePoint flags 8 rest
      | 'a' => .ok (.literal '\x07', rest)
      | 'f' => .ok (.literal '\x0c', rest)
      | 't' => .ok (.literal '\t', rest)
      | 'n' => .ok (.literal '\n', rest)
      | 'r' => .ok (.literal '\r', rest)
      | 'v' => .ok (.literal '\x0b', rest)
      | 'A' => .ok (.place .textStart, rest)
      | 'z' => .ok (.place .textEnd, rest)
      | 'b' => readBoundary flags rest
      | 'B' => words .noBoundary
      | '<' => words .start
      | '>' => words .end
      | _ => .error .invalidEscape

/-! ### Bracket expressions -/

/-- The operations between the parts of a bracket expression. -/
inductive SetOperation where
  | inter
  | diff
  | symmDiff
deriving DecidableEq, Repr

def SetOperation.apply : SetOperation → CharSet → CharSet → CharSet
  | inter => .inter
  | diff => .diff
  | symmDiff => .symmDiff

/-- A bracket expression that is still open: its members so far, and the operation that they are
the right side of, with its left side. -/
structure OpenSet where
  negated : Bool
  left : Option (SetOperation × Nested CharSet)
  members : List (Nested CharSet)
deriving DecidableEq, Repr

namespace OpenSet

def add (o : OpenSet) (s : Nested CharSet) : OpenSet := { o with members := o.members ++ [s] }

/-- The members behind the last operation. -/
def right (o : OpenSet) : Nested CharSet :=
  ⟨depthOf (o.members.map Nested.depth), .ofList (o.members.map Nested.value)⟩

/-- The set so far. Operations group to the left. -/
def current (o : OpenSet) : Nested CharSet :=
  match o.left with
  | none => o.right
  | some (operation, left) =>
    ⟨depthOf [left.depth, o.right.depth], operation.apply left.value o.right.value⟩

def operate (o : OpenSet) (operation : SetOperation) : OpenSet :=
  ⟨o.negated, some (operation, o.current), []⟩

def close (o : OpenSet) : Nested CharSet :=
  ⟨o.current.depth + 1, .negatedIf o.negated o.current.value⟩

end OpenSet

/-- Opens a bracket expression behind its bracket. Hyphens at its head are members, and so is a
closing bracket that stands first. -/
def openSet (flags : Flags) (text : List Char) : OpenSet × List Char :=
  let chars := flags.significant text
  let (negated, chars) :=
    match chars with
    | ('^', _) :: chars => (true, chars)
    | _ => (false, chars)
  let member (c : Char) : Nested CharSet := .flat (flags.folded (.single c))
  match chars.takeWhile (·.1 == '-'), chars.dropWhile (·.1 == '-') with
  | [], (']', rest) :: _ => (⟨negated, none, [member ']']⟩, rest)
  | heads, chars => (⟨negated, none, heads.map fun head => member head.1⟩, Flags.textOf chars)

/-- Reads a named set such as `[:alpha:]`, behind its first bracket. -/
def readPosix? (flags : Flags) (text : List Char) : Option (CharSet × List Char) :=
  match text with
  | ':' :: rest =>
    let (negated, rest) :=
      match rest with
      | '^' :: rest => (true, rest)
      | _ => (false, rest)
    match rest.dropWhile (· != ':') with
    | ':' :: ']' :: after =>
      (CharSet.ofPosixName? (String.ofList (rest.takeWhile (· != ':')))).map fun s =>
        (.negatedIf negated (flags.folded s), after)
    | _ => none
  | _ => none

/-- Reads one member of a bracket expression, or one end of a range. -/
def readMember (flags : Flags) (text : List Char) : Except Fault (Rest Escaped) :=
  match text with
  | [] => .error .unclosedClass
  | '\\' :: rest => readEscape flags rest
  | c :: rest => .ok (.literal c, rest)

/-- The set that a single member stands for. -/
def memberSet (flags : Flags) : Escaped → Except Fault CharSet
  | .literal c => .ok (flags.folded (.single c))
  | .set s => .ok s
  | .place _ => .error .invalidEscape

/-- Whether what follows a member makes it the start of a range. A hyphen does, unless it is the last
member or half of an operation. -/
def beginsRange (chars : List (Char × List Char)) : Bool :=
  match chars with
  | ('-', _) :: (c, _) :: _ => c != ']' && c != '-'
  | [('-', _)] => true
  | _ => false

/-- Reads a member or a range. -/
def readRange (flags : Flags) (text : List Char) : Except Fault (Rest CharSet) := do
  let (first, rest) ← readMember flags text
  let chars := flags.significant rest
  if beginsRange chars then
    let (last, rest) ← readMember flags (Flags.textOf (chars.drop 1))
    match first, last with
    | .literal first, .literal last =>
      if first ≤ last then .ok (flags.folded (.range first last), rest)
      else .error .invalidRange
    | _, _ => .error .invalidRange
  else
    let s ← memberSet flags first
    .ok (s, rest)

/-- Adds a member, if it can stand in the expression. -/
def OpenSet.admit (flags : Flags) (o : OpenSet) (s : Nested CharSet) : Except Fault OpenSet :=
  if flags.admits s.value then .ok (o.add s) else .error .beyondAscii

/-- Reads a bracket expression up to its closing bracket. The outer ones that are open wait in
`outer`. -/
def readSet (flags : Flags) (current : OpenSet) (outer : List OpenSet) :
    Nat → List Char → Except Fault (Rest (Nested CharSet))
  | 0, _ | _, [] => .error .unclosedClass
  | steps + 1, text@(c :: rest) =>
    if flags.ignores c then readSet flags current outer steps (flags.skip text)
    else
      match c, rest with
      | '[', _ =>
        match readPosix? flags rest with
        | some (s, rest) =>
          match current.admit flags (.flat s) with
          | .error fault => .error fault
          | .ok current => readSet flags current outer steps rest
        | none =>
          let (inner, rest) := openSet flags rest
          readSet flags inner (current :: outer) steps rest
      | ']', _ =>
        match outer with
        | [] => if flags.admits current.close.value then .ok (current.close, rest) else .error .beyondAscii
        | next :: outer =>
          match next.admit flags current.close with
          | .error fault => .error fault
          | .ok next => readSet flags next outer steps rest
      | '&', '&' :: rest => readSet flags (current.operate .inter) outer steps rest
      | '-', '-' :: rest => readSet flags (current.operate .diff) outer steps rest
      | '~', '~' :: rest => readSet flags (current.operate .symmDiff) outer steps rest
      | _, _ =>
        match readRange flags text with
        | .error fault => .error fault
        | .ok (s, rest) =>
          match current.admit flags (.flat s) with
          | .error fault => .error fault
          | .ok current => readSet flags current outer steps rest

/-! ### Repetition -/

/-- The greatest count that can be written. -/
def maxCount : Nat := 0xFFFFFFFF

/-- Reads a count, which white space can surround. -/
def readCount (flags : Flags) (text : List Char) : Except Fault (Rest Nat) :=
  let chars := flags.significant ((flags.skip text).dropWhile Unicode.isWhiteSpace)
  let digits := (chars.takeWhile (·.1.isDigit)).map Prod.fst
  let rest := (Flags.textOf (chars.dropWhile (·.1.isDigit))).dropWhile Unicode.isWhiteSpace
  let n := digits.foldl (fun n c => 10 * n + (c.toNat - '0'.toNat)) 0
  if digits.isEmpty || decide (maxCount < n) then .error .invalidCount else .ok (n, rest)

/-- Reads the counts of a repetition behind the opening brace. -/
def readCounts (flags : Flags) (text : List Char) : Except Fault (Rest (Nat × Option Nat)) := do
  let (low, rest) ← readCount flags text
  match rest with
  | '\x7d' :: rest => .ok ((low, some low), rest)
  | ',' :: rest =>
    match flags.skip rest with
    | '\x7d' :: rest => .ok ((low, none), rest)
    | rest =>
      let (high, rest) ← readCount flags rest
      match rest with
      | '\x7d' :: rest => if low ≤ high then .ok ((low, some high), rest) else .error .invalidCount
      | _ => .error .invalidCount
  | _ => .error .invalidCount

/-- Reads the mark of a lazy repetition. -/
def readGreed (flags : Flags) (text : List Char) : Bool × List Char :=
  match text with
  | '?' :: rest => (flags.swapGreed, rest)
  | _ => (!flags.swapGreed, text)

/-! ### Groups -/

/-- A part of a sequence. A change of flags takes a place in it, which cannot be repeated. -/
inductive Part where
  | expression (a : Nested Expression)
  | flags
deriving DecidableEq, Repr

namespace Part

def depth : Part → Nat
  | expression a => a.depth
  | flags => 0

def expression? : Part → Option Expression
  | expression a => some a.value
  | flags => none

end Part

/-- A group that is still open: its flags, its number if it has one, the alternatives before the current
one, and the parts of that one, last part first. -/
structure OpenGroup where
  flags : Flags
  number : Option Nat
  alternatives : List (Nested Expression)
  parts : List Part
deriving DecidableEq, Repr

namespace OpenGroup

def start (flags : Flags) (number : Option Nat) : OpenGroup := ⟨flags, number, [], []⟩

def add (g : OpenGroup) (a : Nested Expression) : OpenGroup :=
  { g with parts := .expression a :: g.parts }

def sequence (g : OpenGroup) : Nested Expression :=
  ⟨depthOf (g.parts.map Part.depth), .ofSeq (g.parts.reverse.filterMap Part.expression?)⟩

def bar (g : OpenGroup) : OpenGroup :=
  { g with alternatives := g.alternatives ++ [g.sequence], parts := [] }

/-- What stands in the group. -/
def content (g : OpenGroup) : Nested Expression :=
  let alternatives := g.alternatives ++ [g.sequence]
  ⟨depthOf (alternatives.map Nested.depth), .ofAlternatives (alternatives.map Nested.value)⟩

def close (g : OpenGroup) : Nested Expression :=
  ⟨g.content.depth + 1,
    match g.number with
    | some number => .group number g.content.value
    | none => g.content.value⟩

/-- Repeats the last part. -/
def repeatLast (g : OpenGroup) (greedy : Bool) (low : Nat) (high : Option Nat) :
    Except Fault OpenGroup :=
  match g.parts with
  | .expression a :: parts =>
    let repetition : Nested Expression := ⟨a.depth + 1, .repetition greedy low high a.value⟩
    .ok { g with parts := .expression repetition :: parts }
  | _ => .error .nothingToRepeat

end OpenGroup

/-- The state of the reader: the group that is read, those around it from the inside to the outside,
how many groups have a number, and the names given so far. -/
structure Progress where
  group : OpenGroup
  outer : List OpenGroup
  numbered : Nat
  names : List (List Char)
deriving DecidableEq, Repr

def isNameChar (first : Bool) (c : Char) : Bool :=
  c == '_' || Unicode.isAlphabetic c ||
    !first && (c == '.' || c == '[' || c == ']' || Unicode.isNumeric c)

def isName : List Char → Bool
  | [] => false
  | c :: rest => isNameChar true c && rest.all (isNameChar false)

/-- Opens a group without a number inside the current one. -/
def Progress.enter (p : Progress) (flags : Flags) : Progress :=
  { p with group := .start flags none, outer := p.group :: p.outer }

/-- Opens a group with the next number inside the current one. -/
def Progress.enterNumbered (p : Progress) : Progress :=
  let number := p.numbered + 1
  { p with
    group := .start p.group.flags (some number), outer := p.group :: p.outer, numbered := number }

/-- Reads the name of a group up to its angle bracket, and opens the group. -/
def Progress.enterNamed (p : Progress) (text : List Char) : Except Fault (Rest Progress) :=
  let name := text.takeWhile (· != '>')
  match text.dropWhile (· != '>') with
  | [] => .error .invalidGroupName
  | _ :: rest =>
    if isName name && !p.names.contains name then
      .ok ({ p.enterNumbered with names := name :: p.names }, rest)
    else .error .invalidGroupName

/-- Reads what follows an opening parenthesis and is not yet part of the group. -/
def Progress.openGroup (p : Progress) (text : List Char) : Except Fault (Rest Progress) :=
  let text := p.group.flags.skip text
  match text with
  | '?' :: '=' :: _ | '?' :: '!' :: _ | '?' :: '<' :: '=' :: _ | '?' :: '<' :: '!' :: _ =>
    .error .lookAround
  | '?' :: 'P' :: '<' :: rest | '?' :: '<' :: rest => p.enterNamed rest
  | '?' :: rest =>
    match readFlags p.group.flags [] rest with
    | .error fault => .error fault
    | .ok ((flags, given, stop), rest) =>
      if stop = ':' then .ok (p.enter flags, rest)
      else if given.isEmpty then .error .nothingToRepeat
      else .ok ({ p with group := { p.group with flags, parts := .flags :: p.group.parts } }, rest)
  | _ => .ok (p.enterNumbered, text)

def Progress.closeGroup (p : Progress) : Except Fault Progress :=
  match p.outer with
  | [] => .error .unopenedGroup
  | next :: outer => .ok { p with group := next.add p.group.close, outer }

/-! ### Patterns -/

def Progress.add (p : Progress) (a : Nested Expression) : Progress :=
  { p with group := p.group.add a }

def literal (flags : Flags) (c : Char) : Expression :=
  .ofSet (flags.folded (.single c))

def Escaped.expression (flags : Flags) : Escaped → Expression
  | literal c => Pattern.literal flags c
  | set s => .ofSet s
  | place p => .at p

/-- Reads one part of the pattern, of which the first character is given. -/
def Progress.read (p : Progress) (c : Char) (rest : List Char) : Except Fault (Rest Progress) :=
  let flags := p.group.flags
  let repeating (low : Nat) (high : Option Nat) (rest : List Char) : Except Fault (Rest Progress) := do
    let (greedy, rest) := readGreed flags rest
    let group ← p.group.repeatLast greedy low high
    .ok ({ p with group }, rest)
  if flags.ignores c then .ok (p, flags.skip (c :: rest))
  else
    match c with
    | '(' => p.openGroup rest
    | ')' => do
      let p ← p.closeGroup
      .ok (p, rest)
    | '|' => .ok ({ p with group := p.group.bar }, rest)
    | '[' => do
      let (start, rest) := openSet flags rest
      let (s, rest) ← readSet flags start [] (rest.length + 1) rest
      .ok (p.add ⟨s.depth, .ofSet s.value⟩, rest)
    | '?' => repeating 0 (some 1) rest
    | '*' => repeating 0 none rest
    | '+' => repeating 1 none rest
    | '\x7b' => do
      let ((low, high), rest) ← readCounts flags rest
      repeating low high (flags.skip rest)
    | '\\' => do
      let (e, rest) ← readEscape flags rest
      .ok (p.add (.flat (e.expression flags)), rest)
    | '.' =>
      match flags.dot? with
      | some s => .ok (p.add (.flat (.one s)), rest)
      | none => .error .beyondAscii
    | '^' => .ok (p.add (.flat (.at (if flags.lines then .lineStart flags.returns else .textStart))), rest)
    | '$' => .ok (p.add (.flat (.at (if flags.lines then .lineEnd flags.returns else .textEnd))), rest)
    | c => .ok (p.add (.flat (literal flags c)), rest)

/-- Reads to the end, in at most `steps` steps. Every step reads a character, so as many steps as there
are characters are enough. -/
def Progress.readAll (p : Progress) : Nat → List Char → Except Fault Expression
  | _, [] =>
    let pattern := p.group.content
    if !p.outer.isEmpty then .error .unclosedGroup
    else if maxDepth < pattern.depth then .error .tooDeep
    else if !pattern.value.isAffordable then .error .tooLarge
    else .ok pattern.value
  | 0, _ :: _ => .error .tooLarge
  | steps + 1, c :: rest =>
    match p.read c rest with
    | .error fault => .error fault
    | .ok (p, rest) => p.readAll steps rest

/-! ### Patterns of texts -/

/-- Whether the character has a meaning of its own in patterns or in bracket expressions. -/
def isMeta (c : Char) : Bool := "\\.+*?()|[]\x7b\x7d^$#&-~".toList.contains c

/-- A written form of the pattern that matches the text and nothing else. -/
def escape (text : List Char) : List Char := text.flatMap fun c => if isMeta c then ['\\', c] else [c]

/-- The pattern that a text writes down. -/
def Expression.ofText (text : String) : Except Fault Expression :=
  let progress : Progress := ⟨.start {} none, [], 0, []⟩
  progress.readAll text.toList.length text.toList

end BundleCheck.Pattern
