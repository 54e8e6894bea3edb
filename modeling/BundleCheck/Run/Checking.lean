import BundleCheck.Run.Loading

/-!
# Checking a project

Every base file is loaded and checked on its own, and then its translations are checked against it in the
order of the languages. A translation is reported after all else that happens to it. Its report is about
the file as it was read, even where it has been updated by then.
-/

namespace BundleCheck

variable {m : Type → Type} [Monad m] [Host m]

/-- What holds for the whole of a run. -/
structure Task where
  settings : Settings
  suite : Suite
  printer : Printer
deriving DecidableEq, Repr

namespace Task

/-- The task for what belongs to the last report. -/
def indented (t : Task) : Task := { t with printer := t.printer.indented }

def note (t : Task) (text : String) : ExceptT Failure m Unit :=
  Host.say t.printer (.note text)

/-- Reports on a bundle, and returns how many errors that counts. -/
def report (t : Task) (b : Bundle) : ExceptT Failure m Nat := do
  Host.say t.printer (.report b)
  return b.report.counted t.settings.fatal

/-- Checks a bundle. -/
def check (t : Task) (b : Bundle) (reference : Option Bundle) : ExceptT Failure m Bundle :=
  match b.check reference t.suite with
  | .error e => throw (.checkFailed e)
  | .ok b => return b

end Task

/-! ### Translations -/

/-- The label of what is wrong with a file as a whole. -/
def fileLabel : String := "File"

/-- The label of a line that cannot be read. -/
def malformedLabel : String := "Syntax"

/-- A translation as it was opened. One that is not usable has a report that says why. -/
structure Opened where
  bundle : Bundle
  isUsable : Bool
deriving DecidableEq

/-- A translation whose whole report is one error. -/
def Opened.refused (b : Bundle) (label message : String) : Opened :=
  ⟨{ b with report := b.report.add ⟨label, [.error none none message]⟩ }, false⟩

/-- Creates the translation of a reference at a path. -/
def createTranslation (t : Task) (reference : Bundle) (language path : String) :
    ExceptT Failure m Opened := do
  match Bundle.create t.settings reference language with
  | .error fault => throw (.invalidPattern fault)
  | .ok created =>
    let b := { created with file := some path }
    match ← b.save none with
    | .error e => throw (.translationNotCreated path e)
    | .ok () =>
      t.note ("Created " ++ path)
      return ⟨b, true⟩

/-- Opens the translation at a path, or creates it if that is asked for and there is none. -/
def openTranslation (t : Task) (reference : Bundle) (language path : String) :
    ExceptT Failure m Opened := do
  let fresh := Bundle.ofLanguage language
  if ← Host.isPresent path then
    match ← fresh.load t.settings path with
    | (b, none) => return ⟨b, true⟩
    | (b, some e) =>
      if e.isMalformed then return .refused b malformedLabel e.message
      else throw (.translationNotLoaded path e)
  else if t.settings.create then createTranslation t reference language path
  else
    return .refused { fresh with file := some path } fileLabel (LoadError.missing path).message

/-- Updates a translation and writes it to the file that it came from. -/
def updateTranslation (t : Task) (reference b : Bundle) (path : String) :
    ExceptT Failure m Bundle := do
  match b.rebuild t.settings reference with
  | .error fault => throw (.invalidPattern fault)
  | .ok b =>
    match ← b.save none with
    | .error e => throw (.fileNotWritten path e)
    | .ok () =>
      t.note ("Updated " ++ path)
      return b

/-- Checks the translation of a base file into one language, and returns the errors that it counts. -/
def checkTranslation (t : Task) (reference : Bundle) (base language : String) :
    ExceptT Failure m Nat := do
  match t.settings.languageFile base language with
  | .error fault => throw (.invalidBase fault)
  | .ok path =>
    let opened ← openTranslation t reference language path
    if opened.isUsable then
      let b ← t.check opened.bundle (some reference)
      let b ← if t.settings.update then updateTranslation t reference b path else pure b
      t.report b
    else t.report opened.bundle

/-! ### Base files -/

/-- The sum of what each step returns. -/
def sumOver {α : Type} (step : α → ExceptT Failure m Nat) : List α → ExceptT Failure m Nat
  | [] => return 0
  | a :: rest => do
    let n ← step a
    let others ← sumOver step rest
    return n + others

/-- Checks a base file and its translations, and returns the errors that they count. -/
def checkBase (t : Task) (base : String) : ExceptT Failure m Nat := do
  match ← Bundle.empty.load t.settings base with
  | (_, some e) => throw (.referenceNotLoaded base e)
  | (reference, none) =>
    let reference ← t.check reference none
    let own ← t.report reference
    let others ← sumOver (checkTranslation t.indented reference base) t.settings.languages
    return own + others

/-! ### The command -/

/-- What is said about where the settings come from. -/
def sourceNote : Option String → String
  | some path => "Using config " ++ path
  | none => "Using default config"

def suiteNote (suite : Suite) : String :=
  "Checks: " ++ ", ".intercalate (suite.map (·.name.label))

/-- Checks a project under settings that come from the given file. -/
def checkProject (color : Bool) (settings : Settings) (source : Option String) :
    ExceptT Failure m ExitStatus := do
  if let some fault := settings.fault? then throw (.invalidSettings fault)
  if settings.files.isEmpty then throw .noBaseFiles
  match settings.suite with
  | .error fault => throw (.invalidSettings (.pattern fault))
  | .ok suite =>
    let printer : Printer :=
      { quiet := settings.quiet
        verbose := settings.verbose
        fatal := settings.fatal
        color := color && settings.color }
    let t : Task := ⟨settings, suite, printer⟩
    t.note (sourceNote source)
    t.note (suiteNote suite)
    let errors ← sumOver (checkBase t) settings.files
    return .ofErrors errors

/-- Carries out a check request. -/
def runCheck (color : Bool) (r : CheckRequest) : ExceptT Failure m ExitStatus := do
  let directory ← Host.directory
  let loaded ← loadSettings directory.path r.settingsFile
  checkProject color (r.apply loaded.settings) loaded.source

end BundleCheck
