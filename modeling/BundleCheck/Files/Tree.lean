import BundleCheck.Files.Path

/-!
# Directory trees

What a run can see of a file system: files and directories at their places below the root. There are no
links, so `..` is the directory above. A path is followed piece by piece, and every piece but the last
has to be a directory.
-/

namespace BundleCheck

/-- Why a file cannot be read or written. -/
inductive FileError where
  | notFound
  | notDirectory
  | isDirectory
  | nameTooLong
  | notText
  | zeroInName
  | other (message : String)
deriving DecidableEq, Repr

def FileError.message : FileError → String
  | notFound => "No such file or directory (os error 2)"
  | notDirectory => "Not a directory (os error 20)"
  | isDirectory => "Is a directory (os error 21)"
  | nameTooLong => "File name too long (os error 36)"
  | notText => "stream did not contain valid UTF-8"
  | zeroInName => "file name contained an unexpected NUL byte"
  | other message => message

/-- The names on the way from the root to a file or directory. -/
abbrev Location := List String

namespace Location

/-- The absolute path of a location. -/
def path (l : Location) : String := "/" ++ "/".intercalate l

def parent (l : Location) : Location := l.dropLast

/-- The path of a name within the directory at a location. -/
def entry (l : Location) (name : String) : String := Path.entry l.path.toList name

end Location

/-- What a file holds. Bytes that are no UTF-8 are kept as they are. -/
inductive FileContent where
  | text (s : String)
  | bytes (b : List UInt8)
deriving DecidableEq, Repr

inductive Node where
  | file (content : FileContent)
  | directory
deriving DecidableEq, Repr

structure Tree where
  nodes : List (Location × Node)
deriving DecidableEq, Repr

namespace Tree

/-- What there is at a location. The root is always a directory. -/
def node? (t : Tree) (l : Location) : Option Node :=
  if l = [] then some .directory else t.nodes.lookup l

/-- Puts a node at a location, in the place of what was there. -/
def put (t : Tree) (l : Location) (n : Node) : Tree :=
  if t.nodes.any (·.1 = l) then ⟨t.nodes.map fun (k, old) => (k, if k = l then n else old)⟩
  else ⟨t.nodes ++ [(l, n)]⟩

/-! ### Following paths -/

/-- The longest name of a file and the longest path, in bytes. -/
def maxName : Nat := 255

def maxPath : Nat := 4095

/-- Where a path leads. -/
inductive Target where
  /-- To something that is there. -/
  | present (l : Location) (n : Node)
  /-- To a free place in a directory. -/
  | vacant (l : Location)
deriving DecidableEq, Repr

/-- Follows the rest of a path from something that is there. -/
def follow (t : Tree) (l : Location) (n : Node) : List String → Except FileError Target
  | [] => .ok (.present l n)
  | piece :: rest =>
    if n ≠ .directory then .error .notDirectory
    else if piece = "" ∨ piece = "." then follow t l n rest
    else if piece = ".." then follow t l.parent .directory rest
    else if maxName < piece.utf8ByteSize then .error .nameTooLong
    else
      match t.node? (l ++ [piece]) with
      | some next => follow t (l ++ [piece]) next rest
      | none => if rest.all (· = "") then .ok (.vacant (l ++ [piece])) else .error .notFound

/-- The pieces of a path, if it is one that can be followed. -/
def piecesOf (path : String) : Except FileError (List String) :=
  let s := path.toList
  if s.contains '\x00' then .error .zeroInName
  else if s.isEmpty then .error .notFound
  else if maxPath < path.utf8ByteSize then .error .nameTooLong
  else .ok ((Path.pieces s).map String.ofList)

/-- Where pieces are followed from: the current directory, or the root if a slash stands first. -/
def start (current : Location) (pieces : List String) : Location :=
  if pieces.head? = some "" then [] else current

def resolve (t : Tree) (current : Location) (path : String) : Except FileError Target := do
  let pieces ← piecesOf path
  t.follow (start current pieces) .directory pieces

/-! ### Operations -/

/-- Whether a path leads to something. -/
def isPresent (t : Tree) (current : Location) (path : String) : Bool :=
  match t.resolve current path with
  | .ok (.present _ _) => true
  | _ => false

/-- The text of a file. -/
def read (t : Tree) (current : Location) (path : String) : Except FileError String :=
  match t.resolve current path with
  | .error e => .error e
  | .ok (.vacant _) => .error .notFound
  | .ok (.present _ .directory) => .error .isDirectory
  | .ok (.present _ (.file (.bytes _))) => .error .notText
  | .ok (.present _ (.file (.text s))) => .ok s

/-- Whether slashes stand at the end. -/
def endsWithSlash (pieces : List String) : Bool := pieces.getLast? == some ""

/-- The pieces that are followed when a file is to be written. A name with slashes behind it is not
looked at. -/
def leading (pieces : List String) : List String :=
  if endsWithSlash pieces then
    match pieces.reverse.dropWhile (· == "") with
    | [] => []
    | last :: before =>
      if last = "." ∨ last = ".." then (last :: before).reverse else before.reverse
  else pieces

/-- The tree after a text has been written to a file, which is created if it is not there. A path that
ends with a slash names a directory, and no directory can be written to. -/
def write (t : Tree) (current : Location) (path text : String) : Except FileError Tree := do
  let pieces ← piecesOf path
  match ← t.follow (start current pieces) .directory (leading pieces) with
  | .present _ .directory => .error .isDirectory
  | .present l (.file _) =>
    if endsWithSlash pieces then .error .notDirectory else .ok (t.put l (.file (.text text)))
  | .vacant l =>
    if endsWithSlash pieces then .error .notFound else .ok (t.put l (.file (.text text)))

end Tree

end BundleCheck
