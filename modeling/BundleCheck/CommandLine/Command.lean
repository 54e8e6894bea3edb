import BundleCheck.Settings.Basic

/-!
# Commands

What the command line can ask for. A check request names settings that override those of the project's
file. Its flags can only switch something on, save the one for colors, which switches them off.
-/

namespace BundleCheck

/-- What the command line says about a check. -/
structure CheckRequest where
  /-- The file to take the settings from. -/
  settingsFile : Option String := none
  bases : List String := []
  languages : List String := []
  checks : List CheckName := []
  strict : Bool := false
  fatal : Bool := false
  update : Bool := false
  create : Bool := false
  writeContent : Bool := false
  writeReference : Bool := false
  separator : Option Char := none
  commentMarker : Option Char := none
  suffix : Option String := none
  noColor : Bool := false
  quiet : Bool := false
  verbose : Bool := false
deriving DecidableEq, Repr

/-- The values given on the command line, if there are any, and otherwise those of the settings. -/
def overriding {α : Type} (given : List α) (settings : List α) : List α :=
  if given.isEmpty then settings else given

/-- The settings of the project under those of the command line. -/
def CheckRequest.apply (r : CheckRequest) (s : Settings) : Settings :=
  { s with
    files := overriding r.bases s.files
    languages := overriding r.languages s.languages
    enabledChecks := overriding r.checks s.enabledChecks
    separator := r.separator.getD s.separator
    commentMarker := r.commentMarker.getD s.commentMarker
    fileSuffix := r.suffix.getD s.fileSuffix
    strict := s.strict || r.strict
    fatal := s.fatal || r.fatal
    update := s.update || r.update
    create := s.create || r.create
    writeContent := s.writeContent || r.writeContent
    writeReference := s.writeReference || r.writeReference
    quiet := s.quiet || r.quiet
    verbose := s.verbose || r.verbose
    color := s.color && !r.noColor }

inductive Command where
  /-- Nothing is asked for, so the program says what can be. -/
  | overview
  /-- Write a file with the standard settings. -/
  | init
  | check (request : CheckRequest)
deriving DecidableEq, Repr

end BundleCheck
