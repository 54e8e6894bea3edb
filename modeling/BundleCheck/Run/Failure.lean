import BundleCheck.Bundle.Basic
import BundleCheck.Files.Tree
import BundleCheck.Settings.LanguageFile
import BundleCheck.Settings.Validation
import BundleCheck.Text.Basic

/-!
# Failures

A failure ends a run before its end. Findings are none: a translation that is missing or cannot be read
is found and reported like any other fault of a translation, while a reference like that leaves nothing
to go by.
-/

namespace BundleCheck

/-- The name of the file that settings are kept in. -/
def settingsFileName : String := ".proptoolrc.json"

/-- Why a bundle cannot be loaded. -/
inductive LoadError where
  | missing (path : String)
  | unreadable (e : FileError)
  | malformed (source : String) (stop : Stop)
  /-- There is no pattern for deferred entries. -/
  | pattern (fault : Pattern.Fault)
deriving DecidableEq, Repr

/-- What a failure says of a pattern that is none. -/
def patternMessage : String := "Invalid regular expression"

namespace LoadError

def isMalformed : LoadError → Bool
  | malformed _ _ => true
  | _ => false

def message : LoadError → String
  | missing path => "File not found: " ++ path
  | unreadable e => e.message
  | malformed source stop =>
    source ++ ":" ++ toString stop.line ++ ": syntax error: " ++ stop.fault.message
  | pattern _ => patternMessage

/-- The error of reading a text, for a source with the given name. -/
def ofReadError (source : String) : ReadError → LoadError
  | .pattern fault => pattern fault
  | .malformed stop => malformed source stop

end LoadError

/-- Why a bundle cannot be saved. -/
inductive SaveError where
  /-- No path is given, and the bundle has none of its own. -/
  | noPath
  | unwritable (e : FileError)
deriving DecidableEq, Repr

def SaveError.message : SaveError → String
  | noPath => "No file path given and the document has no source file"
  | unwritable e => e.message

inductive Failure where
  | settingsMissing (path : String)
  | settingsUnreadable (path : String) (e : FileError)
  | settingsMalformed (path : String)
  | invalidSettings (fault : SettingsFault)
  | noBaseFiles
  | referenceNotLoaded (path : String) (e : LoadError)
  | invalidBase (fault : BaseFault)
  | translationNotLoaded (path : String) (e : LoadError)
  | translationNotCreated (path : String) (e : SaveError)
  | fileNotWritten (path : String) (e : SaveError)
  | invalidPattern (fault : Pattern.Fault)
  | checkFailed (e : MissingReference)
deriving DecidableEq, Repr

namespace SettingsFault

/-- What is wrong, and for a pattern also where it is. -/
def chain : SettingsFault → List String
  | separator c => ["Invalid 'separator': \"" ++ c.toString ++ "\" (allowed: =, :)"]
  | commentMarker c => ["Invalid 'commentMarker': \"" ++ c.toString ++ "\" (allowed: #, !)"]
  | deferralMarker marker =>
    ["Invalid 'commentedOutMarker': \"" ++ marker ++
      "\" (must be non-empty, without white space)"]
  | emptySuffix => ["Invalid 'fileSuffix': must not be empty"]
  | pattern _ => ["Invalid check configuration", patternMessage]

end SettingsFault

namespace Failure

/-- What was attempted, and behind it why that failed. -/
def chain : Failure → List String
  | settingsMissing path => ["Config file not found: " ++ Text.quoted path]
  | settingsUnreadable path e => ["Failed to read config file: " ++ Text.quoted path, e.message]
  | settingsMalformed path => ["Failed to parse config file: " ++ Text.quoted path, "invalid JSON"]
  | invalidSettings fault => fault.chain
  | noBaseFiles => ["No base files given. Use --base or set \"files\" in " ++ settingsFileName]
  | referenceNotLoaded path e => ["Failed to load reference file " ++ path, e.message]
  | invalidBase fault => [fault.message]
  | translationNotLoaded path e => ["Failed to load " ++ path, e.message]
  | translationNotCreated path e => ["Failed to create " ++ path, e.message]
  | fileNotWritten path e => ["Failed to write " ++ path, e.message]
  | invalidPattern _ => [patternMessage]
  | checkFailed e => [e.message]

def loadError? : Failure → Option LoadError
  | referenceNotLoaded _ e | translationNotLoaded _ e => some e
  | _ => none

/-- Whether a line that cannot be read is the cause. -/
def isMalformed (f : Failure) : Bool := f.loadError?.any LoadError.isMalformed

end Failure

/-! ### Exit status -/

/-- How a run is told: by the number of errors that it counted, or if it did not come to its end by whether
a file could not be read for what stands in it. -/
inductive ExitStatus where
  | success
  | failure (errors : Nat)
  | error
  | malformed
deriving DecidableEq, Repr

namespace ExitStatus

/-- The most errors that a code can tell. -/
def maxCounted : Nat := 100

/-- The code before the first that counts errors. -/
def base : Nat := 10

def ofErrors (errors : Nat) : ExitStatus :=
  if errors = 0 then success else failure errors

def ofFailure (f : Failure) : ExitStatus :=
  if f.isMalformed then malformed else error

def code : ExitStatus → Nat
  | success => 0
  | failure errors => base + min errors maxCounted
  | error => 2
  | malformed => 3

end ExitStatus

end BundleCheck
