import BundleCheck.Run.Checking

/-!
# The program

A command is carried out against a host. It ends with an exit status, or with a failure from which an
exit status follows.
-/

namespace BundleCheck

variable {m : Type → Type} [Monad m] [Host m]

/-- Writes the standard settings into the current directory, unless there are settings. -/
def runInit (color : Bool) : ExceptT Failure m ExitStatus := do
  let printer : Printer := { color }
  let directory ← Host.directory
  let path := directory.entry settingsFileName
  if ← Host.isPresent path then
    Host.say printer .settingsKept
    return .error
  else
    match ← Host.write path Settings.standard.toText with
    | .error e => throw (.fileNotWritten path (.unwritable e))
    | .ok () =>
      Host.say printer .settingsWritten
      return .success

/-- Carries out a command. Output has colors if they are wanted and the settings do not forbid them. -/
def runCommand (color : Bool) : Command → ExceptT Failure m ExitStatus
  | .overview => do
    Host.say {} .overview
    return .success
  | .init => runInit color
  | .check r => runCheck color r

/-- How a run ends. -/
structure Outcome where
  status : ExitStatus
  failure : Option Failure
  world : World
deriving DecidableEq

/-- A run on a directory tree. -/
def Command.run (c : Command) (color : Bool) (tree : Tree) (directory : Location) : Outcome :=
  let action : ExceptT Failure (StateM World) ExitStatus := runCommand color c
  let (result, world) := action.run ⟨tree, directory, []⟩
  match result with
  | .ok status => ⟨status, none, world⟩
  | .error f => ⟨.ofFailure f, some f, world⟩

end BundleCheck
