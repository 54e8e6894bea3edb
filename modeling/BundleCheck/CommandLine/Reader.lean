import BundleCheck.CommandLine.Command

/-!
# Reading the command line

A word that begins with two hyphens names an option, and one that begins with a single hyphen is a
cluster of one-letter options. An option that takes values takes the words that follow it, up to the next
option, unless its value is attached to it. The values that an option has collected are looked at when
the next option comes or the words end, so an unknown word is reported before a bad value in front of
it.
-/

namespace BundleCheck.CommandLine

/-- Why no command comes out of the words. -/
inductive Stop where
  | help
  | version
  | unknownArgument
  | unknownCommand
  /-- A value that is missing or that is none of the possible ones. -/
  | invalidValue
  /-- A value that cannot be read. -/
  | malformedValue
  /-- An option that can be given once was given twice. -/
  | repeated
  /-- A value was attached to an option that takes none. -/
  | unexpectedValue
deriving DecidableEq, Repr

/-- The exit code. To ask for help is no mistake. -/
def Stop.code : Stop → Nat
  | help | version => 0
  | _ => 2

/-! ### Words -/

/-- What a word looks like. -/
inductive Word where
  /-- Two hyphens alone, behind which no options come. -/
  | delimiter
  | long (name : List Char) (value : Option (List Char))
  | cluster (letters : List Char)
  | plain (text : String)
deriving DecidableEq, Repr

/-- The word as it looks. A single hyphen alone is a plain word. -/
def Word.ofText (word : String) : Word :=
  match word.toList with
  | ['-', '-'] => .delimiter
  | '-' :: '-' :: rest =>
    match rest.dropWhile (· != '=') with
    | [] => .long rest none
    | _ :: value => .long (rest.takeWhile (· != '=')) (some value)
  | '-' :: c :: rest => .cluster (c :: rest)
  | _ => .plain word

/-! ### Options of a check -/

inductive Flag where
  | strict
  | fatal
  | update
  | create
  | writeContent
  | writeReference
  | noColor
  | quiet
  | verbose
deriving DecidableEq, Repr

namespace Flag

def isSet (r : CheckRequest) : Flag → Bool
  | strict => r.strict
  | fatal => r.fatal
  | update => r.update
  | create => r.create
  | writeContent => r.writeContent
  | writeReference => r.writeReference
  | noColor => r.noColor
  | quiet => r.quiet
  | verbose => r.verbose

def set (r : CheckRequest) : Flag → CheckRequest
  | strict => { r with strict := true }
  | fatal => { r with fatal := true }
  | update => { r with update := true }
  | create => { r with create := true }
  | writeContent => { r with writeContent := true }
  | writeReference => { r with writeReference := true }
  | noColor => { r with noColor := true }
  | quiet => { r with quiet := true }
  | verbose => { r with verbose := true }

end Flag

/-- An option that takes values. -/
inductive Parameter where
  | settingsFile
  | bases
  | languages
  | checks
  | separator
  | commentMarker
  | suffix
deriving DecidableEq, Repr

namespace Parameter

/-- Whether the option goes on collecting values after the first. -/
def takesMany : Parameter → Bool
  | bases | languages | checks => true
  | _ => false

end Parameter

/-- What an option of a check is. -/
inductive CheckOption where
  | help
  | flag (f : Flag)
  | parameter (p : Parameter)
deriving DecidableEq, Repr

namespace CheckOption

def ofName? (name : String) : Option CheckOption :=
  match name with
  | "help" => some help
  | "strict" => some (flag .strict)
  | "fatal" => some (flag .fatal)
  | "update" => some (flag .update)
  | "create" => some (flag .create)
  | "write-content" => some (flag .writeContent)
  | "write-reference" => some (flag .writeReference)
  | "no-color" => some (flag .noColor)
  | "quiet" => some (flag .quiet)
  | "verbose" => some (flag .verbose)
  | "config" => some (parameter .settingsFile)
  | "base" => some (parameter .bases)
  | "lang" => some (parameter .languages)
  | "checks" => some (parameter .checks)
  | "separator" => some (parameter .separator)
  | "comment-marker" => some (parameter .commentMarker)
  | "suffix" => some (parameter .suffix)
  | _ => none

def ofLetter? (c : Char) : Option CheckOption :=
  match c with
  | 'h' => some help
  | 'q' => some (flag .quiet)
  | 'v' => some (flag .verbose)
  | 'b' => some (parameter .bases)
  | 'l' => some (parameter .languages)
  | _ => none

end CheckOption

/-! ### Values -/

/-- A path, which cannot be empty. -/
def readPath (s : String) : Except Stop String :=
  if s = "" then .error .invalidValue else .ok s

def readCheckName (s : String) : Except Stop CheckName :=
  match CheckName.ofIdentifier? s with
  | some name => .ok name
  | none => .error .invalidValue

def readChar (s : String) : Except Stop Char :=
  match s.toList with
  | [c] => .ok c
  | _ => .error .malformedValue

/-- Reads the value of an option that can be given once. -/
def readOnce {α : Type} (read : String → Except Stop α) (before : Option α) (value : String) :
    Except Stop (Option α) :=
  match before with
  | some _ => .error .repeated
  | none => (read value).map some

/-- Gives an option the values that it has collected. -/
def Parameter.give (r : CheckRequest) (p : Parameter) (values : List String) :
    Except Stop CheckRequest :=
  match p, values with
  | _, [] => .error .invalidValue
  | bases, values => do
    let paths ← values.mapM readPath
    .ok { r with bases := r.bases ++ paths }
  | languages, values => .ok { r with languages := r.languages ++ values }
  | checks, values => do
    let names ← values.mapM readCheckName
    .ok { r with checks := r.checks ++ names }
  | settingsFile, value :: _ => do
    .ok { r with settingsFile := ← readOnce readPath r.settingsFile value }
  | separator, value :: _ => do
    .ok { r with separator := ← readOnce readChar r.separator value }
  | commentMarker, value :: _ => do
    .ok { r with commentMarker := ← readOnce readChar r.commentMarker value }
  | suffix, value :: _ => do
    .ok { r with suffix := ← readOnce .ok r.suffix value }

/-! ### Reading a check -/

/-- How far the words of a check have been read: the request so far, and the option that still collects
values. -/
structure Progress where
  request : CheckRequest := {}
  pending : Option (Parameter × List String) := none
deriving DecidableEq, Repr

namespace Progress

/-- Gives the option that collects values what it has. -/
def settle (p : Progress) : Except Stop CheckRequest :=
  match p.pending with
  | none => .ok p.request
  | some (parameter, values) => parameter.give p.request values

def addFlag (p : Progress) (f : Flag) : Except Stop Progress := do
  let request ← p.settle
  if f.isSet request then .error .repeated else .ok { request := f.set request }

/-- Begins an option that takes values, or completes it if its value is attached. -/
def addParameter (p : Progress) (parameter : Parameter) (attached : Option (List Char)) :
    Except Stop Progress := do
  let request ← p.settle
  match attached with
  | none => .ok { request, pending := some (parameter, []) }
  | some value => do
    let request ← parameter.give request [String.ofList value]
    .ok { request }

def addHelp (p : Progress) : Except Stop Progress := do
  let _ ← p.settle
  .error .help

/-- Reads an option that is given by its name. -/
def addLong (p : Progress) (name : List Char) (value : Option (List Char)) : Except Stop Progress :=
  match CheckOption.ofName? (String.ofList name), value with
  | none, _ => .error .unknownArgument
  | some (.parameter parameter), value => p.addParameter parameter value
  | some _, some _ => .error .unexpectedValue
  | some .help, none => p.addHelp
  | some (.flag f), none => p.addFlag f

/-- The value that is attached to a letter. -/
def attachedValue : List Char → Option (List Char)
  | [] => none
  | '=' :: value => some value
  | value => some value

/-- Reads a cluster of letters. What follows the letter of an option that takes values is its value. -/
def addCluster (p : Progress) : List Char → Except Stop Progress
  | [] => .ok p
  | c :: rest =>
    match CheckOption.ofLetter? c with
    | none => .error .unknownArgument
    | some .help => p.addHelp
    | some (.parameter parameter) => p.addParameter parameter (attachedValue rest)
    | some (.flag f) =>
      match p.addFlag f with
      | .error stop => .error stop
      | .ok p => addCluster p rest

/-- Reads a word that is no option. It has to be a value for the option before it. -/
def addPlain (p : Progress) (text : String) : Except Stop Progress :=
  match p.pending with
  | none => .error .unknownArgument
  | some (parameter, values) =>
    if parameter.takesMany || values.isEmpty then
      .ok { p with pending := some (parameter, values ++ [text]) }
    else .error .unknownArgument

/-- Reads the words behind the name of the command. -/
def addWords (p : Progress) : List String → Except Stop CheckRequest
  | [] => p.settle
  | word :: rest =>
    match Word.ofText word with
    | .delimiter => if rest.isEmpty then p.settle else .error .unknownArgument
    | .long name value =>
      match p.addLong name value with
      | .error stop => .error stop
      | .ok p => addWords p rest
    | .cluster letters =>
      match p.addCluster letters with
      | .error stop => .error stop
      | .ok p => addWords p rest
    | .plain text =>
      match p.addPlain text with
      | .error stop => .error stop
      | .ok p => addWords p rest

end Progress

/-! ### Commands -/

def isCommandName (word : String) : Bool := ["check", "init", "help"].contains word

/-- Reads the words behind `init`, which takes none. -/
def readInit : List String → Except Stop Command
  | [] => .ok .init
  | word :: rest =>
    match Word.ofText word with
    | .delimiter => if rest.isEmpty then .ok .init else .error .unknownArgument
    | .long name value =>
      if name = "help".toList then .error (if value.isSome then .unexpectedValue else .help)
      else .error .unknownArgument
    | .cluster letters =>
      .error (if letters.head? = some 'h' then .help else .unknownArgument)
    | .plain _ => .error .unknownArgument

/-- Reads the words behind `help`, which can name one command. -/
def readHelp : List String → Stop
  | [] => .help
  | [word] => if isCommandName word then .help else .unknownCommand
  | _ => .unknownCommand

/-- Reads a word in the place of a command that is an option. -/
def readGlobalOption (letterOrName : List Char) (value : Option (List Char)) : Stop :=
  let option : Option Stop :=
    if letterOrName = "help".toList then some .help
    else if letterOrName = "version".toList then some .version
    else none
  match option, value with
  | none, _ => .unknownArgument
  | some _, some _ => .unexpectedValue
  | some stop, none => stop

def readGlobalLetter (letter : Option Char) : Stop :=
  match letter with
  | some 'h' => .help
  | some 'V' => .version
  | _ => .unknownArgument

/-- Reads the words behind the name of the program. -/
def read : List String → Except Stop Command
  | [] => .ok .overview
  | word :: rest =>
    match Word.ofText word with
    | .delimiter =>
      match rest with
      | [] => .ok .overview
      | next :: _ => .error (if isCommandName next then .unknownArgument else .unknownCommand)
    | .long name value => .error (readGlobalOption name value)
    | .cluster letters => .error (readGlobalLetter letters.head?)
    | .plain "check" => (Progress.addWords {} rest).map .check
    | .plain "init" => readInit rest
    | .plain "help" => .error (readHelp rest)
    | .plain _ => .error .unknownCommand

/-- What the program says if nothing is asked for. -/
def overview : String :=
  "A fast CLI tool for checking Java .properties translation files\n" ++
  "\n" ++
  "Usage: prop-tool [COMMAND]\n" ++
  "\n" ++
  "Commands:\n" ++
  "  check  Check translation files against their reference files\n" ++
  "  init   Initialize a new .proptoolrc.json configuration file\n" ++
  "  help   Print this message or the help of the given subcommand(s)\n" ++
  "\n" ++
  "Options:\n" ++
  "  -h, --help     Print help\n" ++
  "  -V, --version  Print version\n"

end BundleCheck.CommandLine
