import BundleCheck.Bundle.Content
import BundleCheck.Check.Options
import BundleCheck.Finding

/-!
# Quotation marks

Marks that open and close with the same character. A mark cancels the innermost one that is still open
if the two are the same, and opens otherwise. What is left in the end is not paired, and the leftmost
of it is the finding.
-/

namespace BundleCheck.QuotationMarks

/-- A mark that is open, and its column. -/
structure OpenMark where
  mark : Char
  column : Nat
deriving DecidableEq, Repr

/-- What a mark does to the open ones, the innermost of which is first. -/
def step (column : Nat) (c : Char) (stack : List OpenMark) : List OpenMark :=
  match stack with
  | top :: rest => if top.mark = c then rest else ⟨c, column⟩ :: stack
  | [] => [⟨c, column⟩]

/-- The marks that are open in the end, where the text begins at the given column. -/
def openFrom (marks : List Char) (column : Nat) (stack : List OpenMark) : List Char → List OpenMark
  | [] => stack
  | c :: rest =>
    openFrom marks (column + 1) (if marks.contains c then step column c stack else stack) rest

/-- The leftmost mark that is not paired. -/
def unpaired? (marks : List Char) (value : List Char) : Option OpenMark :=
  (openFrom marks 1 [] value).getLast?

def nothingConfigured : Finding := .warning none none "No quotation marks configured."

def message (mark : Char) : String := "Unpaired quotation mark \"" ++ mark.toString ++ "\"."

/-- The finding on one line. -/
def inspectLine (o : QuotationOptions) (number : Nat) (line : Line) : List Finding :=
  match line.inspected? o.comments with
  | none => []
  | some value =>
    (unpaired? o.marks value.toList).toList.map fun m =>
      .graded (some (.atColumn number m.column)) line.key? (message m.mark)

def findings (o : QuotationOptions) (d : Content) : List Finding :=
  if o.marks.isEmpty then [nothingConfigured] else d.inspect (inspectLine o)

end BundleCheck.QuotationMarks
