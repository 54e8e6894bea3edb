import BundleCheck.Bundle.Reading
import BundleCheck.Proofs.Bundle.Separation
import BundleCheck.Proofs.Text.Lines

/-!
# Lines that can be read as they are written

A line that was read from a file can be written and read again, and this module says what comes back.
`Legible` collects what is true of every line that was read: nothing in it ends the line early or cuts it
at another place. What comes back is then `reread`, which is the line itself unless a carriage return at
its end is taken for a part of the line break, or a key that begins with a comment marker is no longer
indented and makes the whole line a comment.
-/

namespace BundleCheck

/-! ### Comments -/

theorem Comment.text_make {s : String} (h : startsAsComment s.toList = true) : (Comment.make s).text = s := by
  rw [Comment.make, dif_pos h]

theorem Comment.make_text (c : Comment) : Comment.make c.text = c := by
  rw [Comment.make, dif_pos c.marked]

theorem Comment.not_mem_text_make {s : String} {x : Char} (hx : x ∉ ['#', ' ']) (h : x ∉ s.toList) :
    x ∉ (Comment.make s).text.toList := by
  unfold Comment.make
  split
  · exact h
  · rw [String.toList_append, List.mem_append, not_or]
    exact ⟨hx, h⟩

theorem startsAsComment_append {front : List Char} (h : front ≠ []) (back : List Char) :
    startsAsComment (front ++ back) = startsAsComment front := by
  cases front with
  | nil => exact absurd rfl h
  | cons c front => rfl

/-! ### Entries as text -/

theorem Entry.toList_text (e : Entry) :
    e.text.toList = e.key.toList ++ ' ' :: e.separator.char :: ' ' :: e.value.toList := by
  simp [Entry.text]

theorem Entry.toList_key_ne_nil (e : Entry) : e.key.toList ≠ [] := by
  rw [ne_eq, String.toList_eq_nil_iff]
  exact e.key_ne_empty

theorem Entry.trimBoth_key (e : Entry) : Text.trimBoth e.key.toList = e.key.toList := by
  have h := congrArg String.toList e.key_trimmed
  rwa [Text.trim, String.toList_ofList] at h

theorem Entry.trimStart_key (e : Entry) : Text.trimStart e.key.toList = e.key.toList := by
  rw [← e.trimBoth_key]
  exact Text.trimStart_trimBoth _

theorem Entry.trimEnd_key (e : Entry) : Text.trimEnd e.key.toList = e.key.toList := by
  have h := e.trimBoth_key
  rwa [Text.trimBoth, e.trimStart_key] at h

theorem Entry.trimBoth_key_append (e : Entry) : Text.trimBoth (e.key.toList ++ [' ']) = e.key.toList := by
  rw [Text.trimBoth, Text.trimStart_append e.trimStart_key e.toList_key_ne_nil,
    Text.trimEnd_concat_of_isWhiteSpace (by decide), e.trimEnd_key]

/-! ### Lines that were read -/

/-- What is true of every line that was read from a file. -/
def Line.Legible : Line → Prop
  | .entry e =>
    '\n' ∉ e.key.toList ∧ Separation.ofLine? e.key.toList = none ∧
      '\n' ∉ e.value.toList ∧ Text.trimStart e.value.toList = e.value.toList
  | .comment c => '\n' ∉ c.text.toList
  | .blank => True

def Line.deferred? (marker : String) : Line → Option String
  | .comment c => Deferral.ofComment? marker c
  | _ => none

theorem Line.Legible.not_mem_text {l : Line} (h : l.Legible) : '\n' ∉ l.text.toList := by
  cases l with
  | entry e =>
    obtain ⟨hkey, -, hvalue, -⟩ := h
    have hsep : '\n' ≠ e.separator.char := by cases e.separator <;> decide
    show '\n' ∉ e.text.toList
    simp [Entry.toList_text, hkey, hvalue, hsep]
  | comment c => exact h
  | blank => simp [Line.text]

namespace ReadLine

variable {marker : String} {text : List Char}

/-- A text that is an entry is cut at a separator, and both parts lose white space. -/
theorem ofEntryText_eq_ok {l : ReadLine} (h : ofEntryText text = .ok l) :
    ∃ s e, Separation.ofLine? text = some s ∧ l = .entry e ∧ e.key.toList = Text.trimBoth s.key ∧
      e.separator = s.separator ∧ e.value.toList = Text.trimStart s.value := by
  unfold ofEntryText at h
  split at h
  · cases h
  · rename_i s hs
    by_cases hkey : Text.trim (String.ofList s.key) = ""
    · rw [dif_pos hkey] at h
      cases h
    · rw [dif_neg hkey] at h
      refine ⟨s, _, hs, (Except.ok.inj h).symm, ?_, rfl, ?_⟩
      · simp [Text.trim]
      · simp

theorem legible_of_ofText {l : ReadLine} (htext : '\n' ∉ text) (h : ofText marker text = .ok l) :
    l.line.Legible := by
  unfold ofText at h
  split at h
  · exact Except.ok.inj h ▸ trivial
  · split at h
    · rename_i hcomment
      rw [← Except.ok.inj h]
      show '\n' ∉ (Comment.make (String.ofList text)).text.toList
      rw [Comment.text_make (by rwa [String.toList_ofList]), String.toList_ofList]
      exact htext
    · obtain ⟨s, e, hs, rfl, hkey, -, hvalue⟩ := ofEntryText_eq_ok h
      rw [← Separation.line_of_ofRest? hs, Separation.line, List.mem_append, List.mem_cons, not_or,
        not_or] at htext
      have hkeySub : (Text.trimBoth s.key) ⊆ s.key := fun c hc =>
        (List.dropWhile_suffix _).subset ((Text.trimEnd_prefix_self _).subset hc)
      have hvalueSub : (Text.trimStart s.value) ⊆ s.value := (List.dropWhile_suffix _).subset
      refine ⟨?_, ?_, ?_, ?_⟩
      · rw [hkey]
        exact fun hmem => htext.1 (hkeySub hmem)
      · rw [hkey]
        exact Separation.ofLine?_trimBoth (Separation.ofRest?_key hs)
      · rw [hvalue]
        exact fun hmem => htext.2.2 (hvalueSub hmem)
      · rw [hvalue]
        exact Text.trimStart_trimStart s.value

/-- What a line that was read defers is told by the line alone. -/
theorem deferred?_of_ofText {l : ReadLine} (h : ofText marker text = .ok l) :
    l.deferred? = l.line.deferred? marker := by
  unfold ofText at h
  split at h
  · exact Except.ok.inj h ▸ rfl
  · split at h
    · exact Except.ok.inj h ▸ rfl
    · obtain ⟨s, e, -, rfl, -⟩ := ofEntryText_eq_ok h
      rfl

end ReadLine

/-! ### Lines that are read again -/

/-- What a line is read as once it has been written. -/
def Line.reread : Line → Line
  | .entry e =>
    if startsAsComment e.key.toList then .comment (.make (String.ofList (Text.dropReturn e.text.toList)))
    else .entry { e with value := String.ofList (Text.dropReturn e.value.toList) }
  | .comment c => .comment (.make (String.ofList (Text.dropReturn c.text.toList)))
  | .blank => .blank

/-- What makes a line come back as it was. -/
def Line.Durable : Line → Prop
  | .entry e => startsAsComment e.key.toList = false ∧ e.value.toList.getLast? ≠ some '\r'
  | .comment c => c.text.toList.getLast? ≠ some '\r'
  | .blank => True

theorem Text.startsAsComment_dropReturn (s : List Char) :
    startsAsComment (dropReturn s) = startsAsComment s := by
  cases s with
  | nil => rfl
  | cons c s =>
    cases s with
    | nil =>
      by_cases hc : c = '\r'
      · rw [hc]
        rfl
      · rw [dropReturn_eq_self (by simpa using hc)]
    | cons d s =>
      rw [dropReturn]
      · rfl
      · simp

theorem Line.reread_eq_self_iff {l : Line} : l.reread = l ↔ l.Durable := by
  cases l with
  | entry e =>
    rw [reread, Durable]
    cases hkey : startsAsComment e.key.toList with
    | true => simp
    | false =>
      have hvalue : String.ofList (Text.dropReturn e.value.toList) = e.value ↔
          Text.dropReturn e.value.toList = e.value.toList := by
        rw [← String.toList_inj, String.toList_ofList]
      rw [← Text.dropReturn_eq_self_iff, ← hvalue]
      cases e
      simp
  | comment c =>
    have hmarked : startsAsComment (String.ofList (Text.dropReturn c.text.toList)).toList = true := by
      rw [String.toList_ofList, Text.startsAsComment_dropReturn]
      exact c.marked
    have htext : String.ofList (Text.dropReturn c.text.toList) = c.text ↔
        Text.dropReturn c.text.toList = c.text.toList := by
      rw [← String.toList_inj, String.toList_ofList]
    rw [reread, Durable, ← Text.dropReturn_eq_self_iff, ← htext, comment.injEq]
    refine ⟨fun h => ?_, fun h => by rw [h, Comment.make_text]⟩
    rw [← Comment.text_make hmarked, h]
  | blank => exact ⟨fun _ => trivial, fun _ => rfl⟩

/-- A key at the head of a line keeps the line from being blank, and decides whether it is a comment. -/
theorem Entry.not_isBlank_key_append (e : Entry) (rest : List Char) :
    Text.isBlank (e.key.toList ++ rest) = false := by
  cases hkey : e.key.toList with
  | nil => exact absurd hkey e.toList_key_ne_nil
  | cons c key =>
    have hc : Unicode.isWhiteSpace c = false := by
      refine Text.trimStart_eq_self_iff.1 e.trimStart_key c ?_
      rw [hkey]
      rfl
    simp [Text.isBlank, hc]

theorem Entry.isBlank_text (e : Entry) : Text.isBlank e.text.toList = false := by
  rw [e.toList_text]
  exact e.not_isBlank_key_append _

theorem Entry.startsAsComment_text (e : Entry) :
    startsAsComment e.text.toList = startsAsComment e.key.toList := by
  rw [e.toList_text]
  exact startsAsComment_append e.toList_key_ne_nil _

theorem not_isBlank_of_startsAsComment {s : List Char} (h : startsAsComment s = true) :
    Text.isBlank s = false := by
  cases s with
  | nil => cases h
  | cons c s =>
    have hc : Unicode.isWhiteSpace c = false := by
      cases hspace : Unicode.isWhiteSpace c with
      | false => rfl
      | true =>
        simp only [startsAsComment, isCommentMarker, List.head?_cons, Option.any_some, Bool.or_eq_true,
          beq_iff_eq] at h
        rcases h with rfl | rfl <;> exact absurd hspace (by decide)
    simp [Text.isBlank, hc]

theorem Entry.dropReturn_text (e : Entry) :
    Text.dropReturn e.text.toList =
      ({ e with value := String.ofList (Text.dropReturn e.value.toList) } : Entry).text.toList := by
  have hblank : Text.dropReturn (' ' :: e.value.toList) = ' ' :: Text.dropReturn e.value.toList := by
    cases hvalue : e.value.toList with
    | nil => rfl
    | cons c value => exact Text.dropReturn_append (by simp) [' ']
  have htext : e.text.toList = (e.key.toList ++ [' ', e.separator.char]) ++ ' ' :: e.value.toList := by
    simp [e.toList_text]
  rw [htext, Text.dropReturn_append (by simp), hblank, List.append_assoc, Entry.toList_text, String.toList_ofList]
  rfl

/-- An entry whose key could not be cut is read from its text with the same key and separator, and with its value
from where that does not begin with white space. -/
theorem ReadLine.ofEntryText_text (e : Entry) (h : Separation.ofLine? e.key.toList = none) :
    ofEntryText e.text.toList =
      .ok (.entry { e with value := String.ofList (Text.trimStart e.value.toList) }) := by
  have hcut : Separation.ofLine? e.text.toList = some ⟨e.key.toList ++ [' '], e.separator, ' ' :: e.value.toList⟩ := by
    rw [e.toList_text]
    exact Separation.ofLine?_append h _ _
  have hkey : Text.trim (String.ofList (e.key.toList ++ [' '])) = e.key := by
    rw [Text.trim, String.toList_ofList, e.trimBoth_key_append, String.ofList_toList]
  have hvalue : Text.trimStart (' ' :: e.value.toList) = Text.trimStart e.value.toList :=
    List.dropWhile_cons_of_pos (by decide)
  simp only [ofEntryText, hcut, hkey, e.key_ne_empty, dif_neg, not_false_eq_true, hvalue]

/-- A line that was read and is written and read again is read as something. -/
theorem ReadLine.ofText_text {l : Line} (hl : l.Legible) (marker : String) :
    ∃ r, ReadLine.ofText marker (Text.dropReturn l.text.toList) = .ok r ∧ r.line = l.reread := by
  cases l with
  | entry e =>
    obtain ⟨-, hcut, -, hvalue⟩ := hl
    rw [Line.text, Line.reread, e.dropReturn_text, ofText, Entry.isBlank_text, Entry.startsAsComment_text]
    cases startsAsComment e.key.toList with
    | true => exact ⟨_, rfl, rfl⟩
    | false =>
      have hread := ofEntryText_text { e with value := String.ofList (Text.dropReturn e.value.toList) } hcut
      rw [String.toList_ofList, Text.trimStart_eq_self_of_prefix (Text.dropReturn_prefix_self _) hvalue] at hread
      exact ⟨_, hread, rfl⟩
  | comment c =>
    have hmarked : startsAsComment (Text.dropReturn c.text.toList) = true := by
      rw [Text.startsAsComment_dropReturn]
      exact c.marked
    rw [Line.text, ofText, not_isBlank_of_startsAsComment hmarked, hmarked]
    exact ⟨_, rfl, rfl⟩
  | blank => exact ⟨.blank, rfl, rfl⟩

end BundleCheck
