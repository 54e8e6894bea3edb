import BundleCheck.Check.Name
import BundleCheck.Check.Options

/-!
# Settings

What a run goes by. The defaults are those of a project that says nothing.
-/

namespace BundleCheck

structure Settings where
  /-- Stands between key and value in lines that the program writes. -/
  separator : Char := '='
  /-- Begins the comments that the program writes. -/
  commentMarker : Char := '#'
  /-- Tells a deferred entry from other comments. -/
  deferralMarker : String := "==>"
  /-- How the names of all translation files end. -/
  fileSuffix : String := ".properties"
  languages : List String := []
  /-- The files that are translated. -/
  files : List String := []
  /-- A deferred key counts as missing too. -/
  strict : Bool := false
  /-- Warnings count towards the exit status as errors do. -/
  fatal : Bool := false
  color : Bool := true
  quiet : Bool := false
  verbose : Bool := false
  /-- Bring translations into the order of their reference. -/
  update : Bool := false
  /-- Create translations that are missing. -/
  create : Bool := false
  /-- Keep the value of the reference in a deferred entry. -/
  writeContent : Bool := false
  /-- Write the value of the reference above each entry. -/
  writeReference : Bool := false
  enabledChecks : List CheckName := CheckName.all
  checks : CheckOptions := {}
deriving DecidableEq, Repr

namespace Settings

def standard : Settings := {}

/-! ### Comments that the program writes -/

/-- The comment that defers a key, with the value of the reference where it is to be kept. -/
def deferralText (s : Settings) (key : String) (value : Option String) : String :=
  let line :=
    s.commentMarker.toString ++ " " ++ s.deferralMarker ++ " " ++ key ++ " " ++ s.separator.toString
  match value with
  | some value => line ++ " " ++ value
  | none => line

/-- What follows the comment marker where the value of the reference is written above an entry. -/
def referenceMarker : String := ">>"

/-- The comment that repeats a value of the reference. -/
def referenceText (s : Settings) (value : String) : String :=
  s.commentMarker.toString ++ " " ++ referenceMarker ++ " " ++ value

end Settings

end BundleCheck
