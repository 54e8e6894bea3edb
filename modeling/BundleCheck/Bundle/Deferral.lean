import BundleCheck.Bundle.Line
import BundleCheck.Pattern.Capture
import BundleCheck.Pattern.Reader

/-!
# Deferred entries

An entry that still waits for its translation is kept as a comment: a comment marker, the deferral
marker, the key and a separator, with white space allowed between them. The key ends at the first
character that is white space or a separator, so `# ==> link=http://example.com` defers `link`.

Such a comment is described by a pattern with the key in its group. For a marker that is very long the
pattern is too large, and then nothing can be read or updated under it. Where there is a pattern, `key?`
finds by going over the line once what the pattern captures.
-/

namespace BundleCheck.Deferral

open Unicode (isWhiteSpace)

/-! ### The pattern -/

/-- The written form of the pattern. The text of the marker means itself. -/
def patternText (marker : String) : String :=
  let markers := String.ofList commentMarkers
  let separators := String.ofList (Separator.all.map Separator.char)
  "^[" ++ markers ++ "]\\s*" ++ String.ofList (Pattern.escape marker.toList) ++ "\\s*([^\\s" ++ separators ++
    "]+)\\s*[" ++ separators ++ "].*$"

-- Reading the text is no part of a proof about what is done with the pattern.
@[irreducible] def pattern (marker : String) : Except Pattern.Fault Pattern.Expression :=
  Pattern.Expression.ofText (patternText marker)

/-- The group that takes the key. -/
def keyGroup : Nat := 1

/-- What the pattern captures from a line. -/
def capture? (pattern : Pattern.Expression) (line : List Char) : Option (List Char) :=
  pattern.capture? keyGroup line

/-- There is a pattern for the marker. -/
def HasPattern (marker : String) : Prop := (pattern marker).toBool = true

instance (marker : String) : Decidable (HasPattern marker) :=
  inferInstanceAs (Decidable ((pattern marker).toBool = true))

theorem HasPattern.exists_pattern {marker : String} (h : HasPattern marker) : ∃ p, pattern marker = .ok p := by
  rw [HasPattern] at h
  cases hpattern : pattern marker with
  | ok p => exact ⟨p, rfl⟩
  | error fault => simp [hpattern, Except.toBool] at h

theorem hasPattern_of_ok {marker : String} {p : Pattern.Expression} (h : pattern marker = .ok p) :
    HasPattern marker := by
  rw [HasPattern, h]
  rfl

theorem not_hasPattern_of_error {marker : String} {fault : Pattern.Fault} (h : pattern marker = .error fault) :
    ¬ HasPattern marker := by
  rw [HasPattern, h]
  exact Bool.false_ne_true

theorem hasPattern_or_error (marker : String) :
    HasPattern marker ∨ ∃ fault, pattern marker = .error fault := by
  cases h : pattern marker with
  | ok p => exact .inl (hasPattern_of_ok h)
  | error fault => exact .inr ⟨fault, rfl⟩

/-! ### The key of a line -/

/-- Whether a deferred key can hold the character. -/
def isKeyChar (c : Char) : Bool := !isWhiteSpace c && !isSeparator c

/-- The key at the head of what follows the deferral marker, if a separator comes after it and the
line does not go on behind a line feed. -/
def leadingKey? (s : List Char) : Option (List Char) :=
  let start := s.dropWhile isWhiteSpace
  let key := start.takeWhile isKeyChar
  match (start.dropWhile isKeyChar).dropWhile isWhiteSpace with
  | [] => none
  | c :: rest => if isSeparator c && !key.isEmpty && !rest.contains '\n' then some key else none

/-- The text behind the marker, if the text begins with it. -/
def behind? : List Char → List Char → Option (List Char)
  | [], s => some s
  | _ :: _, [] => none
  | m :: marker, c :: s => if m = c then behind? marker s else none

/-- The key behind the marker, which can stand at the head of the text or after white space. -/
def keyBehind? (marker : List Char) (s : List Char) : Option (List Char) :=
  match (behind? marker s).bind leadingKey? with
  | some key => some key
  | none =>
    match s with
    | [] => none
    | c :: rest => if isWhiteSpace c then keyBehind? marker rest else none

/-- The key that a line defers. -/
def key? (marker line : List Char) : Option (List Char) :=
  match line with
  | [] => none
  | c :: rest => if isCommentMarker c then keyBehind? marker rest else none

/-- The key that a comment defers. -/
def ofComment? (marker : String) (c : Comment) : Option String :=
  (key? marker.toList c.text.toList).map String.ofList

end BundleCheck.Deferral
