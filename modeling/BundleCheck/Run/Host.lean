import BundleCheck.CommandLine.Reader
import BundleCheck.Run.Failure
import BundleCheck.Terminal.Printer

/-!
# What a run needs from outside

A run looks at files, writes files and says things, and does nothing else. The commands are written
against this interface. One implementation is the real machine; the other is a directory tree held as a
value, on which a run is a function from trees to trees.
-/

namespace BundleCheck

/-- Something that a run says. -/
inductive Event where
  /-- A remark on the course of the run. -/
  | note (text : String)
  /-- The report on a file. -/
  | report (b : Bundle)
  /-- The standard settings have been written. -/
  | settingsWritten
  /-- There are settings, so none have been written. -/
  | settingsKept
  | overview
deriving DecidableEq

namespace Event

/-- Whether the event is a complaint, for which there is a stream of its own. -/
def isComplaint : Event → Bool
  | settingsKept => true
  | _ => false

def text (p : Printer) : Event → String
  | note text => p.note text
  | report b => p.listing b
  | settingsWritten =>
    Style.green.paint p.color successMark ++ " " ++
      Style.green.paint p.color ("Created " ++ settingsFileName) ++ "\n"
  | settingsKept =>
    Style.red.paint p.color failureMark ++ " " ++
      Style.red.paint p.color (settingsFileName ++ " already exists") ++ "\n"
  | overview => CommandLine.overview

end Event

class Host (m : Type → Type) where
  /-- The current directory. -/
  directory : m Location
  /-- Whether there is something at a path. -/
  isPresent : String → m Bool
  read : String → m (Except FileError String)
  write : String → String → m (Except FileError Unit)
  say : Printer → Event → m Unit

/-- A run that can fail has the host of the run that it is built on. -/
instance {ε : Type} {m : Type → Type} [Monad m] [Host m] : Host (ExceptT ε m) where
  directory := ExceptT.lift Host.directory
  isPresent path := ExceptT.lift (Host.isPresent path)
  read path := ExceptT.lift (Host.read path)
  write path text := ExceptT.lift (Host.write path text)
  say printer event := ExceptT.lift (Host.say printer event)

/-! ### A directory tree as host -/

/-- Something said, and how it is to be shown. -/
structure Utterance where
  printer : Printer
  event : Event
deriving DecidableEq

/-- A directory tree with a current directory, and what has been said. -/
structure World where
  tree : Tree
  directory : Location
  said : List Utterance := []
deriving DecidableEq

namespace World

def textOf (w : World) (complaints : Bool) : String :=
  String.join ((w.said.filter (·.event.isComplaint = complaints)).map fun u =>
    u.event.text u.printer)

/-- What was written to the standard output. -/
def output (w : World) : String := w.textOf false

/-- What was written to the standard error stream. -/
def complaints (w : World) : String := w.textOf true

end World

instance : Host (StateM World) where
  directory := fun w => (w.directory, w)
  isPresent path := fun w => (w.tree.isPresent w.directory path, w)
  read path := fun w => (w.tree.read w.directory path, w)
  write path text := fun w =>
    match w.tree.write w.directory path text with
    | .error e => (.error e, w)
    | .ok tree => (.ok (), { w with tree })
  say printer event := fun w => ((), { w with said := w.said ++ [⟨printer, event⟩] })

end BundleCheck
