import BundleCheck.Bundle.Content
import BundleCheck.Finding

/-!
# Keys of a translation and its reference

The keys of two files are compared as sets, in the order of one of them. A key of the reference that
the translation only defers is missing for a strict reader and waits for its turn for any other.
-/

namespace BundleCheck

namespace Keys

/-- The keys of the translation that the reference lacks, in the order of the translation. -/
def dangling (translation reference : Content) : List String :=
  translation.keys.filter fun key => !reference.contains key

/-- The keys of the reference that the translation lacks, in the order of the reference. -/
def missing (strict : Bool) (reference translation : Content) : List String :=
  reference.keys.filter fun key =>
    !translation.contains key && (strict || !translation.defers key)

/-- The keys of both, in the order of the reference. -/
def common (reference translation : Content) : List String :=
  reference.keys.filter translation.contains

end Keys

namespace DanglingKeys

/-- The finding on one line, given which keys the reference has. -/
def inspectLine (isKnown : String → Bool) (number : Nat) : Line → List Finding
  | .entry e =>
    if isKnown e.key then []
    else [.error (some (.onLine number)) (some e.key) "Key not present in reference file."]
  | _ => []

def findings (translation reference : Content) : List Finding :=
  translation.inspect (inspectLine reference.contains)

end DanglingKeys

namespace MissingTranslations

def findings (strict : Bool) (translation reference : Content) : List Finding :=
  (Keys.missing strict reference translation).map fun key =>
    .warning none (some key) "Missing translation."

end MissingTranslations

end BundleCheck
