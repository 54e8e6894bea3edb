import BundleCheck.Unicode.Property

/-!
# Texts

A text is cut after every line feed, and each piece loses one line feed and then one carriage return
from its end. So a final line feed starts no further line, a carriage return elsewhere is an ordinary
character, and of several carriage returns at the end of a line only the last is taken off.

A key is what is left of its part of the line without the white space around it, and a line is blank
when nothing is left. The functions work on lists of characters; `trim` on strings is the one that
types mention. Trimming twice is trimming once, which is what lets a trimmed key be stored as such.

A path that is named in a failure is written between double quotes, so that blanks at its ends and
characters that a terminal would not show can be told apart.
-/

namespace BundleCheck.Text

/-! ### Lines -/

/-- The pieces between line feeds. A text that ends with a line feed has no piece after it. -/
def pieces : List Char → List (List Char)
  | [] => []
  | c :: rest =>
    if c = '\n' then [] :: pieces rest
    else
      match pieces rest with
      | [] => [[c]]
      | piece :: others => (c :: piece) :: others

/-- The line without one carriage return at its end. -/
def dropReturn : List Char → List Char
  | [] => []
  | ['\r'] => []
  | c :: rest => c :: dropReturn rest

/-- The lines of a text, without their terminators. -/
def lines (text : List Char) : List (List Char) :=
  (pieces text).map dropReturn

/-! ### White space at the ends -/

open Unicode (isWhiteSpace)

def trimStart (s : List Char) : List Char :=
  s.dropWhile isWhiteSpace

def trimEnd (s : List Char) : List Char :=
  (s.reverse.dropWhile isWhiteSpace).reverse

def trimBoth (s : List Char) : List Char :=
  trimEnd (trimStart s)

/-- Only white space, or nothing at all. -/
def isBlank (s : List Char) : Bool :=
  s.all isWhiteSpace

/-- The text without the white space at either end. -/
def trim (s : String) : String :=
  String.ofList (trimBoth s.toList)

theorem trimStart_eq_self {s : List Char} (h : ∀ c ∈ s.head?, isWhiteSpace c = false) :
    trimStart s = s := by
  cases s with
  | nil => rfl
  | cons c r => simp [trimStart, h c rfl]

theorem not_isWhiteSpace_of_mem_head?_trimStart (s : List Char) :
    ∀ c ∈ (trimStart s).head?, isWhiteSpace c = false := by
  intro c hc
  have := List.head?_dropWhile_not isWhiteSpace s
  unfold trimStart at hc
  rw [hc] at this
  simpa using this

theorem trimStart_trimStart (s : List Char) : trimStart (trimStart s) = trimStart s :=
  trimStart_eq_self (not_isWhiteSpace_of_mem_head?_trimStart s)

theorem trimStart_eq_self_iff {s : List Char} : trimStart s = s ↔ ∀ c ∈ s.head?, isWhiteSpace c = false := by
  constructor
  · intro h
    rw [← h]
    exact not_isWhiteSpace_of_mem_head?_trimStart s
  · exact trimStart_eq_self

theorem trimStart_eq_self_of_prefix {front s : List Char} (hfront : front <+: s) (h : trimStart s = s) :
    trimStart front = front := by
  cases front with
  | nil => rfl
  | cons c front =>
    obtain ⟨back, rfl⟩ := hfront
    rw [trimStart_eq_self_iff] at h ⊢
    exact h

theorem trimStart_append {s : List Char} (h : trimStart s = s) (hne : s ≠ []) (t : List Char) :
    trimStart (s ++ t) = s ++ t := by
  cases s with
  | nil => exact absurd rfl hne
  | cons c s =>
    rw [trimStart_eq_self_iff] at h ⊢
    exact h

theorem trimEnd_trimEnd (s : List Char) : trimEnd (trimEnd s) = trimEnd s := by
  have h := trimStart_trimStart s.reverse
  unfold trimStart at h
  simp [trimEnd, h]

theorem trimEnd_concat_of_isWhiteSpace {c : Char} (h : isWhiteSpace c = true) (s : List Char) :
    trimEnd (s ++ [c]) = trimEnd s := by
  rw [trimEnd, trimEnd, List.reverse_append, List.reverse_singleton, List.singleton_append,
    List.dropWhile_cons, if_pos h]

theorem trimEnd_prefix_self (s : List Char) : trimEnd s <+: s := by
  rw [← List.reverse_suffix]
  simpa [trimEnd] using List.dropWhile_suffix isWhiteSpace (l := s.reverse)

theorem length_trimBoth_le (s : List Char) : (trimBoth s).length ≤ s.length :=
  Nat.le_trans (trimEnd_prefix_self _).length_le (List.dropWhile_suffix _).length_le

theorem trimStart_trimBoth (s : List Char) : trimStart (trimBoth s) = trimBoth s :=
  trimStart_eq_self_of_prefix (trimEnd_prefix_self _) (trimStart_trimStart s)

theorem trimBoth_trimBoth (s : List Char) : trimBoth (trimBoth s) = trimBoth s := by
  rw [trimBoth, trimStart_trimBoth]
  exact trimEnd_trimEnd _

theorem trim_trim (s : String) : trim (trim s) = trim s := by
  simp [trim, trimBoth_trimBoth]

/-! ### Hexadecimal digits -/

def hexDigit? (c : Char) : Option Nat :=
  if '0' ≤ c ∧ c ≤ '9' then some (c.toNat - '0'.toNat)
  else if 'a' ≤ c ∧ c ≤ 'f' then some (c.toNat - 'a'.toNat + 10)
  else if 'A' ≤ c ∧ c ≤ 'F' then some (c.toNat - 'A'.toNat + 10)
  else none

/-- The number that the digits write. No digits write zero. -/
def hexValue? (digits : List Char) : Option Nat :=
  digits.foldlM (fun n c => (hexDigit? c).map (16 * n + ·)) 0

/-! ### Quoted text -/

/-- One character of a quoted text. What cannot be seen is written as its code point. -/
def quoteChar (c : Char) : List Char :=
  if c = '"' then ['\\', '"']
  else if c = '\\' then ['\\', '\\']
  else if c = '\n' then ['\\', 'n']
  else if c = '\r' then ['\\', 'r']
  else if c = '\t' then ['\\', 't']
  else if c.toNat = 0 then ['\\', '0']
  else if Unicode.isExtendingMark c || !Unicode.isPrintable c then
    ['\\', 'u', '\x7b'] ++ Nat.toDigits 16 c.toNat ++ ['\x7d']
  else [c]

/-- The text between double quotes. -/
def quoted (s : String) : String :=
  String.ofList ('"' :: s.toList.flatMap quoteChar ++ ['"'])

end BundleCheck.Text
