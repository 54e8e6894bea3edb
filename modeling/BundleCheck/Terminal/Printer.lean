import BundleCheck.Bundle.Basic
import BundleCheck.Terminal.Style

/-!
# Listings of reports

A report is shown as the name of its file, the sections with their findings, and a line that sums up.
Quiet printing leaves out everything but the last line of a file that fails, and notes are shown by
verbose printing alone. None of this changes which files fail.
-/

namespace BundleCheck

/-- How reports are shown. -/
structure Printer where
  quiet : Bool := false
  verbose : Bool := false
  /-- Warnings count as errors do. -/
  fatal : Bool := false
  color : Bool := false
  indent : Nat := 0
deriving DecidableEq, Repr

def successMark : String := "✓"

def failureMark : String := "✘"

/-- The finding behind its severity. -/
def Finding.listed (color : Bool) (f : Finding) : String :=
  let style : Style :=
    match f.severity with
    | .error => .boldRed
    | .warning => .boldYellow
  style.paint color f.severity.name ++ ": " ++ f.text

/-- The numbers of errors and of warnings. -/
def Report.counts (color : Bool) (r : Report) : String :=
  let errors := if r.errors = 1 then "error" else "errors"
  let warnings := if r.warnings = 1 then "warning" else "warnings"
  toString r.errors ++ " " ++ Style.red.paint color errors ++ ", " ++
    toString r.warnings ++ " " ++ Style.yellow.paint color warnings

namespace Printer

/-- The printer for what belongs to the listing before it. -/
def indented (p : Printer) : Printer := { p with indent := p.indent + 1 }

/-- A line of a listing, at a level below the indentation of the printer. -/
def line (p : Printer) (level : Nat) (text : String) : String :=
  String.ofList (List.replicate (2 * (p.indent + level)) ' ') ++ text ++ "\n"

/-- Whether the bundle fails the run. -/
def fails (p : Printer) (b : Bundle) : Bool := b.report.fails p.fatal

/-- The line that sums up. -/
def summary (p : Printer) (b : Bundle) : String :=
  let outcome :=
    if !p.fails b && b.report.isEmpty then Style.green.paint p.color "no problems found"
    else b.report.counts p.color
  let mark :=
    if p.fails b then Style.red.paint p.color failureMark
    else Style.green.paint p.color successMark
  mark ++ " " ++ b.name ++ ": " ++ outcome

def listSection (p : Printer) (s : Section) : String :=
  p.line 1 (Style.cyan.paint p.color s.label) ++
    String.join (s.findings.map fun f => p.line 2 (f.listed p.color))

/-- The report of a bundle. -/
def listing (p : Printer) (b : Bundle) : String :=
  if p.quiet then
    if p.fails b then p.line 0 (p.summary b) else ""
  else
    p.line 0 (Style.bold.paint p.color b.name) ++
      String.join (b.report.sections.map p.listSection) ++ p.line 1 (p.summary b)

/-- A remark on the course of the run. -/
def note (p : Printer) (text : String) : String :=
  if p.verbose && !p.quiet then p.line 0 (Style.dimmed.paint p.color text) else ""

end Printer

end BundleCheck
