import BundleCheck.Run.Host
import BundleCheck.Settings.Encoding

/-!
# Settings and bundles from files

Settings come from the file that is asked for, or from the nearest settings file in the current
directory and those above it. The search does not leave a repository: a directory that holds one is the
last to be looked at. It goes up by the text of a path, so from a relative path it does not come beyond
the directory that the path is relative to. Where no file is found the standard settings hold.
-/

namespace BundleCheck

variable {m : Type → Type} [Monad m] [Host m]

/-! ### Settings -/

/-- What marks the top directory of a repository. -/
def repositoryMark : String := ".git"

/-- The settings file in a directory, and none if there is only a repository. Else the search goes on. -/
def settingsAt (directory : List Char) (further : m (Option String)) : m (Option String) := do
  if ← Host.isPresent (Path.entry directory settingsFileName) then
    return some (Path.entry directory settingsFileName)
  else if ← Host.isPresent (Path.entry directory repositoryMark) then return none
  else further

/-- The settings file in the directory of a path or in one of those above it, the nearest first. What is
above is told from the text of the path alone. -/
def findSettings (directory : List Char) : m (Option String) :=
  settingsAt directory <|
    match h : Path.parent? directory with
    | none => pure none
    | some parent =>
      have := Path.length_lt_of_parent? h
      findSettings parent
termination_by directory.length

theorem findSettings_of_none {directory : List Char} (h : Path.parent? directory = none) :
    (findSettings directory : m (Option String)) = settingsAt directory (pure none) := by
  rw [findSettings]
  split
  · rfl
  · rename_i hsome
    cases h.symm.trans hsome

theorem findSettings_of_some {directory parent : List Char} (h : Path.parent? directory = some parent) :
    (findSettings directory : m (Option String)) = settingsAt directory (findSettings parent) := by
  rw [findSettings]
  split
  · rename_i hnone
    cases h.symm.trans hnone
  · rename_i hsome
    rw [Option.some.inj (h.symm.trans hsome)]

/-- The settings in a file. -/
def readSettings (path : String) : ExceptT Failure m Settings := do
  match ← Host.read path with
  | .error e => throw (.settingsUnreadable path e)
  | .ok text =>
    match Settings.ofText? text with
    | none => throw (.settingsMalformed path)
    | some settings => return settings

/-- Settings, and the file that they come from. -/
structure LoadedSettings where
  settings : Settings
  source : Option String
deriving DecidableEq, Repr

/-- The settings for a directory, or those of the file that is asked for. -/
def loadSettings (directory : String) (asked : Option String) :
    ExceptT Failure m LoadedSettings := do
  match asked with
  | some path =>
    if ← Host.isPresent path then return ⟨← readSettings path, path⟩
    else throw (.settingsMissing path)
  | none =>
    match ← findSettings directory.toList with
    | some path => return ⟨← readSettings path, path⟩
    | none => return ⟨.standard, none⟩

/-! ### Bundles -/

namespace Bundle

/-- Reads a file into a bundle, which takes its path. If there is nothing to read the bundle stays as
it was, and if a line cannot be read it holds what came before. -/
def load (s : Settings) (b : Bundle) (path : String) : m (Bundle × Option LoadError) := do
  if ← Host.isPresent path then
    match ← Host.read path with
    | .error e => return (b, some (.unreadable e))
    | .ok text =>
      let (b, e) := { b with file := some path }.parse s text
      return (b, e.map (.ofReadError b.sourceName))
  else return (b, some (.missing path))

/-- Writes the content to a file, by default the one that it came from. -/
def save (b : Bundle) (path : Option String) : m (Except SaveError Unit) := do
  match path.or b.file with
  | none => return .error .noPath
  | some path => return (← Host.write path b.content.text).mapError .unwritable

end Bundle

end BundleCheck
