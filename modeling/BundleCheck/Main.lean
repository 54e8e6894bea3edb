import BundleCheck.Run.Program

/-!
# The command line program

The real machine as a host, and the entry point. What the program does is decided elsewhere; here the
decisions meet files, streams and the exit code.
-/

namespace BundleCheck.Main

/-- The reason that the system gives for a file that cannot be read or written. -/
def fileError : IO.Error → FileError
  | .noFileOrDirectory .. => .notFound
  | .inappropriateType _ code _ =>
    if code = 20 then .notDirectory else .isDirectory
  | e => .other (toString e)

def attempt {α : Type} (action : IO α) : IO (Except FileError α) := do
  try
    return .ok (← action)
  catch e =>
    return .error (fileError e)

instance : Host IO where
  directory := do
    let path := (← IO.currentDir).toString
    return (path.splitOn "/").filter (· != "")
  isPresent path := do
    if path = "" then return false else ((← IO.currentDir) / path).pathExists
  read path := do
    match ← attempt (IO.FS.readBinFile path) with
    | .error e => return .error e
    | .ok bytes =>
      match String.fromUTF8? bytes with
      | some text => return .ok text
      | none => return .error .notText
  write path text := attempt (IO.FS.writeFile path text)
  say printer event := do
    if event.isComplaint then IO.eprint (event.text printer) else IO.print (event.text printer)

/-- The name and the version of the program. -/
def version : String := "prop-tool 0.4.0"

/-- What is said about words that make no command. -/
def usageMessage : CommandLine.Stop → String
  | .help => CommandLine.overview
  | .version => version ++ "\n"
  | .unknownArgument => "error: unexpected argument\n"
  | .unknownCommand => "error: unrecognized subcommand\n"
  | .invalidValue => "error: a value is missing or not one of the possible values\n"
  | .malformedValue => "error: invalid value\n"
  | .repeated => "error: an argument cannot be used multiple times\n"
  | .unexpectedValue => "error: unexpected value for a flag\n"

def run (args : List String) : IO Nat := do
  match CommandLine.read args with
  | .error stop =>
    if stop.code = 0 then IO.print (usageMessage stop) else IO.eprint (usageMessage stop)
    return stop.code
  | .ok command =>
    let color ← (← IO.getStdout).isTty
    let action : ExceptT Failure IO ExitStatus := runCommand color command
    match ← action.run with
    | .ok status => return status.code
    | .error failure =>
      IO.eprintln ("Error: " ++ ": ".intercalate failure.chain)
      return (ExitStatus.ofFailure failure).code

end BundleCheck.Main

def main (args : List String) : IO UInt32 := do
  return (← BundleCheck.Main.run args).toUInt32
