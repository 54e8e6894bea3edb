import BundleCheck.Pattern.CharSet

/-!
# Sets of characters as bytes

In UTF-8 a character is one to four bytes, the first of which tells how many follow. The characters of
a range are not a range of byte sequences as a whole, but fall into a few blocks, each of which is the
product of one range of bytes for every place. `blocks` cuts a set into those blocks in increasing order.
-/

namespace BundleCheck.Pattern

/-- The bytes from `first` to `last`. -/
structure ByteRange where
  first : Nat
  last : Nat
deriving DecidableEq, Repr

/-- One range for each byte of a character. -/
abbrev Block := List ByteRange

namespace Block

/-- The least and the greatest byte that continues a character, and how many there are. -/
def firstContinuation : Nat := 0x80

def lastContinuation : Nat := 0xBF

def continuations : Nat := 0x40

/-- The blocks of the numbers from `first` to `last`, written with a leading byte that has `offset`
added to it and with `following` continuation bytes behind. -/
def cut (offset : Nat) : Nat → Nat → Nat → List Block
  | 0, first, last => [[⟨offset + first, offset + last⟩]]
  | following + 1, first, last =>
    let size := continuations ^ (following + 1)
    let inner (lead first last : Nat) : List Block :=
      (cut firstContinuation following first last).map (⟨offset + lead, offset + lead⟩ :: ·)
    let a := first / size
    let b := last / size
    if a = b then inner a (first % size) (last % size)
    else
      let low := if first % size = 0 then a else a + 1
      let high := if last % size = size - 1 then b + 1 else b
      (if low = a then [] else inner a (first % size) (size - 1)) ++
      (if low < high then
        [⟨offset + low, offset + (high - 1)⟩ ::
          List.replicate (following + 1) ⟨firstContinuation, lastContinuation⟩]
      else []) ++
      (if high = b then inner b 0 (last % size) else [])

/-- The code points that are written with the same number of bytes: the first and the last of them, what
is added to the leading byte, and how many bytes follow it. Surrogates are not written at all. -/
structure Length where
  first : Nat
  last : Nat
  offset : Nat
  following : Nat

def lengths : List Length :=
  [⟨0, 0x7F, 0, 0⟩, ⟨0x80, 0x7FF, 0xC0, 1⟩, ⟨0x800, 0xD7FF, 0xE0, 2⟩, ⟨0xE000, 0xFFFF, 0xE0, 2⟩,
    ⟨0x10000, 0x10FFFF, 0xF0, 3⟩]

/-- The blocks of a range of code points. -/
def ofRange (first last : Nat) : List Block :=
  lengths.flatMap fun l =>
    let first := max first l.first
    let last := min last l.last
    if first ≤ last then cut l.offset l.following first last else []

end Block

def CharSet.blocks (s : CharSet) : List Block :=
  s.ranges.flatMap fun (first, last) => Block.ofRange first last

/-- Whether the set holds ASCII characters alone. -/
def CharSet.isAscii (s : CharSet) : Bool := s.ranges.all (·.2 ≤ 0x7F)

/-- The bytes of a word. -/
def bytesOf (word : List Char) : List Nat :=
  word.flatMap fun c => (String.utf8EncodeChar c).map UInt8.toNat

end BundleCheck.Pattern
