/-!
# Offsets

A search for a word tells a place in a text by the number of bytes before it in UTF-8, while columns count
characters from one. Where a word has been found, the search goes on behind it, so what it finds does not overlap.
-/

namespace BundleCheck.Text

def byteLength : List Char → Nat
  | [] => 0
  | c :: rest => c.utf8Size + byteLength rest

/-- The characters of a text that stand before an offset. -/
def upTo (offset : Nat) : List Char → List Char
  | [] => []
  | c :: rest => if c.utf8Size ≤ offset then c :: upTo (offset - c.utf8Size) rest else []

/-- The column of an offset. -/
def column (text : List Char) (offset : Nat) : Nat := (upTo offset text).length + 1

/-- The offsets at which a word is found in a text that begins at the given one. Some characters can be left to skip,
since they belong to the word that was found before. -/
def offsetsFrom (word : List Char) (offset : Nat) : Nat → List Char → List Nat
  | _, [] => []
  | skipped + 1, c :: rest => offsetsFrom word (offset + c.utf8Size) skipped rest
  | 0, c :: rest =>
    if word.isPrefixOf (c :: rest) then
      offset :: offsetsFrom word (offset + c.utf8Size) (word.length - 1) rest
    else offsetsFrom word (offset + c.utf8Size) 0 rest

/-- The offsets at which a word is found in a text. -/
def offsets (word text : List Char) : List Nat := offsetsFrom word 0 0 text

theorem byteLength_cons (c : Char) (rest : List Char) : byteLength (c :: rest) = c.utf8Size + byteLength rest := rfl

theorem byteLength_append (front rest : List Char) :
    byteLength (front ++ rest) = byteLength front + byteLength rest := by
  induction front with
  | nil => exact (Nat.zero_add _).symm
  | cons c front ih => rw [List.cons_append, byteLength, byteLength, ih, Nat.add_assoc]

theorem length_upTo_le (offset : Nat) (text : List Char) : (upTo offset text).length ≤ text.length := by
  induction text generalizing offset with
  | nil => exact Nat.le_refl 0
  | cons c rest ih =>
    rw [upTo]
    split
    · exact Nat.succ_le_succ (ih _)
    · exact Nat.zero_le _

/-- The offset of a place is the number of bytes before it. -/
theorem upTo_byteLength (front rest : List Char) : upTo (byteLength front) (front ++ rest) = front := by
  induction front with
  | nil =>
    cases rest with
    | nil => rfl
    | cons c rest => exact if_neg (Nat.not_le_of_lt c.utf8Size_pos)
  | cons c front ih =>
    rw [List.cons_append, upTo, byteLength_cons, if_pos (Nat.le_add_right _ _), Nat.add_sub_cancel_left, ih]

theorem column_byteLength (front rest : List Char) : column (front ++ rest) (byteLength front) = front.length + 1 := by
  rw [column, upTo_byteLength]

end BundleCheck.Text
