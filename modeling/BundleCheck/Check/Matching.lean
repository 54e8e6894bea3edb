import BundleCheck.Bundle.Content
import BundleCheck.Check.Options
import BundleCheck.Finding
import BundleCheck.Pattern.Matching
import BundleCheck.Pattern.Reader

/-!
# Checks by pattern

Keys have to match a pattern, and values should hold no match of a substitution rule. Patterns are read
once, before any file is checked, so that a text that is no pattern stops the run at its start.
-/

namespace BundleCheck

open Pattern (Expression)

namespace KeyFormat

def message (pattern : String) : String := "Key does not match pattern \"" ++ pattern ++ "\"."

/-- The finding on one line, given the written pattern and what it means. -/
def inspectLine (written : String) (pattern : Expression) (number : Nat) : Line → List Finding
  | .entry e =>
    if pattern.occursIn e.key.toList then []
    else [.error (some (.onLine number)) (some e.key) (message written)]
  | _ => []

def findings (written : String) (pattern : Expression) (d : Content) : List Finding :=
  d.inspect (inspectLine written pattern)

end KeyFormat

namespace Substitutions

/-- A substitution rule whose pattern has been read. -/
structure Rule where
  pattern : Expression
  replacement : String
  flag : SubstitutionFlag
deriving DecidableEq, Repr

def Rule.ofWritten (r : SubstitutionRule) : Except Pattern.Fault Rule := do
  let pattern ← Expression.ofText r.pattern
  .ok ⟨pattern, r.replacement, r.flag⟩

/-- The first rule that applies to a text, and what it found. -/
def firstMatch? (rules : List Rule) (value : List Char) : Option (Rule × Pattern.Match) :=
  rules.findSome? fun rule => (rule.pattern.find? value).map (rule, ·)

def suggestion (found replacement : String) : String :=
  "\"" ++ found ++ "\" could be replaced with \"" ++ replacement ++ "\"."

def refusal (found : String) : String := "Found \"" ++ found ++ "\"."

def finding (rule : Rule) (m : Pattern.Match) (number : Nat) (key : Option String) : Finding :=
  let position := some (Position.atColumn number (m.start + 1))
  match rule.flag with
  | .fail => .error position key (refusal (String.ofList m.text))
  | .suggest => .warning position key (suggestion (String.ofList m.text) rule.replacement)

/-- The finding on one line. -/
def inspectLine (rules : List Rule) (comments : Bool) (number : Nat) (line : Line) : List Finding :=
  match line.inspected? comments with
  | none => []
  | some value =>
    (firstMatch? rules value.toList).toList.map fun (rule, m) => finding rule m number line.key?

def findings (rules : List Rule) (comments : Bool) (d : Content) : List Finding :=
  d.inspect (inspectLine rules comments)

end Substitutions

end BundleCheck
