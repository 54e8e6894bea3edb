/-!
# JSON values

Settings are kept as JSON. Only what settings can hold has to be understood, so a number is kept as it
was written. The members of an object keep their order, and one name can occur among them twice.
-/

namespace BundleCheck

/-- A JSON value. A string is `none` when its escapes leave half a surrogate pair alone: the grammar
allows that, and it stands for no text. -/
inductive Json where
  | null
  | bool (b : Bool)
  | number (literal : String)
  | string (s : Option String)
  | array (items : List Json)
  | object (members : List (Option String × Json))
deriving Inhabited

namespace Json

def text (s : String) : Json := .string (some s)

def char (c : Char) : Json := .text c.toString

def texts (items : List String) : Json := .array (items.map .text)

def chars (items : List Char) : Json := .array (items.map .char)

def record (members : List (String × Json)) : Json :=
  .object (members.map fun (name, value) => (some name, value))

/-! ### Written form -/

/-- A character of a string. -/
def escaped (c : Char) : List Char :=
  match c with
  | '"' => ['\\', '"']
  | '\\' => ['\\', '\\']
  | '\n' => ['\\', 'n']
  | '\r' => ['\\', 'r']
  | '\t' => ['\\', 't']
  | '\x08' => ['\\', 'b']
  | '\x0c' => ['\\', 'f']
  | c =>
    if c.toNat < 0x10 then ['\\', 'u', '0', '0', '0'] ++ Nat.toDigits 16 c.toNat
    else if c.toNat < 0x20 then ['\\', 'u', '0', '0'] ++ Nat.toDigits 16 c.toNat
    else [c]

def writtenString (s : String) : String :=
  "\"" ++ String.ofList (s.toList.flatMap escaped) ++ "\""

/-- A new line at the given depth. -/
def newLine (depth : Nat) : String :=
  "\n" ++ String.ofList (List.replicate (2 * depth) ' ')

mutual

/-- The value with one item or member a line, indented by two blanks for every level. -/
def written (depth : Nat) : Json → String
  | null => "null"
  | bool b => if b then "true" else "false"
  | number literal => literal
  | string s => writtenString (s.getD "")
  | array [] => "[]"
  | array (item :: items) =>
    "[" ++ newLine (depth + 1) ++ written (depth + 1) item ++ writtenItems (depth + 1) items ++
      newLine depth ++ "]"
  | object [] => "\x7b\x7d"
  | object ((name, value) :: members) =>
    "\x7b" ++ newLine (depth + 1) ++ writtenString (name.getD "") ++ ": " ++
      written (depth + 1) value ++ writtenMembers (depth + 1) members ++ newLine depth ++ "\x7d"

/-- The items after the first. -/
def writtenItems (depth : Nat) : List Json → String
  | [] => ""
  | item :: items => "," ++ newLine depth ++ written depth item ++ writtenItems depth items

/-- The members after the first. -/
def writtenMembers (depth : Nat) : List (Option String × Json) → String
  | [] => ""
  | (name, value) :: members =>
    "," ++ newLine depth ++ writtenString (name.getD "") ++ ": " ++ written depth value ++
      writtenMembers depth members

end

/-- The value as the text of a file. -/
def toText (j : Json) : String := j.written 0

end Json

end BundleCheck
