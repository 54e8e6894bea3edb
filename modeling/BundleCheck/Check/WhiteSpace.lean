import BundleCheck.Bundle.Content
import BundleCheck.Check.Options
import BundleCheck.Finding
import BundleCheck.Text.Offset

/-!
# White space that nobody sees

Two checks look for it: at the end of a value, and right before a line break that the value writes as a
backslash and a letter.
-/

namespace BundleCheck

namespace TrailingWhiteSpace

/-- How many white characters a value ends with. -/
def count (value : List Char) : Nat :=
  (value.reverse.takeWhile Unicode.isWhiteSpace).length

def message (n : Nat) : String := "Trailing white characters: " ++ toString n ++ "."

/-- The finding on one line. -/
def inspectLine (o : CommentOptions) (number : Nat) (line : Line) : List Finding :=
  match line.inspected? o.comments with
  | none => []
  | some value =>
    let n := count value.toList
    if n = 0 then [] else [.graded (some (.onLine number)) line.key? (message n)]

def findings (o : CommentOptions) (d : Content) : List Finding :=
  d.inspect (inspectLine o)

end TrailingWhiteSpace

namespace WhiteSpaceBeforeBreak

/-- A line break as a value writes it. -/
inductive Break where
  | lineFeed
  | carriageReturn
deriving DecidableEq, Repr

def Break.letter : Break → Char
  | lineFeed => 'n'
  | carriageReturn => 'r'

def Break.literal (b : Break) : List Char := ['\\', b.letter]

/-- A white character that the check knows by name. -/
inductive White where
  | space
  | tab
deriving DecidableEq, Repr

namespace White

def name : White → String
  | space => "SPACE"
  | tab => "TAB"

def ofChar? (c : Char) : Option White :=
  if c = ' ' then some space else if c = '\t' then some tab else none

end White

/-- The white character right before an offset, and its own offset. -/
def whiteBefore? (value : List Char) (offset : Nat) : Option (White × Nat) := do
  let c ← (Text.upTo offset value).getLast?
  let white ← White.ofChar? c
  some (white, offset - c.utf8Size)

/-- The first white character right before the break, and its column. -/
def first? (b : Break) (value : List Char) : Option (White × Nat) :=
  ((Text.offsets b.literal value).findSome? (whiteBefore? value)).map fun (white, offset) =>
    (white, Text.column value offset)

def message (white : White) (b : Break) : String :=
  white.name ++ " found before \"\\" ++ b.letter.toString ++ "\"."

/-- The length of the shortest value with white space before a break. -/
def shortest : Nat := 3

/-- The findings on one line, at most one for either break. -/
def inspectLine (o : CommentOptions) (number : Nat) (line : Line) : List Finding :=
  match line.inspected? o.comments with
  | none => []
  | some value =>
    if value.length < shortest then []
    else
      [Break.lineFeed, Break.carriageReturn].filterMap fun b =>
        (first? b value.toList).map fun (white, column) =>
          .warning (some (.atColumn number column)) line.key? (message white b)

def findings (o : CommentOptions) (d : Content) : List Finding :=
  d.inspect (inspectLine o)

end WhiteSpaceBeforeBreak

end BundleCheck
