import BundleCheck.Proofs.Bundle.Deferral
import BundleCheck.Proofs.Bundle.Legible

/-!
# Entries that are read from their own text

An entry can be made of parts that no line is read as. Its key may begin with a comment mark, which makes the whole
line a comment, it may hold a separator at which the line is cut too early, and its value may begin with white space,
which is lost. These are the only ways in which an entry does not come back from its text. A line that is cut too
early gives an entry with a shorter key, or none if nothing is left of the key.
-/

namespace BundleCheck

theorem startsAsComment_iff {s : List Char} :
    startsAsComment s = true ↔ s.head? = some '#' ∨ s.head? = some '!' := by
  cases s with
  | nil => simp [startsAsComment]
  | cons c s => simp [startsAsComment, isCommentMarker]

/-- What an entry is made of. -/
theorem Entry.parts_of_make? {key value : String} {separator : Char} {e : Entry}
    (h : make? key separator value = .ok e) :
    e.key = Text.trim key ∧ e.separator.char = separator ∧ e.value = value := by
  unfold make? at h
  split at h
  · cases h
  · split at h
    · cases h
    · rename_i sep hsep
      rw [← Except.ok.inj h]
      exact ⟨rfl, (Separation.ofChar?_eq_some_iff.1 hsep).symm, rfl⟩

theorem Entry.with_value_eq_self_iff {e : Entry} {value : String} :
    ({ e with value := value } : Entry) = e ↔ value = e.value := by
  cases e
  simp

namespace ReadLine

variable {e : Entry} {marker : String}

/-- The text of an entry is a comment if its key begins as one, and an entry or malformed if not. -/
theorem ofText_text_eq (e : Entry) (marker : String) :
    ofText marker e.text.toList =
      if startsAsComment e.key.toList then
        .ok (.comment (.make e.text) (Deferral.ofComment? marker (.make e.text)))
      else ofEntryText e.text.toList := by
  rw [ofText, e.isBlank_text, e.startsAsComment_text, String.ofList_toList]
  rfl

/-- A key that can be cut is read as a shorter one, if anything is left of it. -/
theorem ofEntryText_text_of_cut {s : Separation} (h : Separation.ofLine? e.key.toList = some s) :
    ofEntryText e.text.toList = .error .missingKey ∨
      ∃ own, ofEntryText e.text.toList = .ok (.entry own) ∧ own.key.toList.length < e.key.toList.length := by
  obtain ⟨hline, heven, huncut⟩ := Separation.ofLine?_eq_some_iff.1 h
  have hcut : Separation.ofLine? e.text.toList =
      some ⟨s.key, s.separator, s.value ++ ' ' :: e.separator.char :: ' ' :: e.value.toList⟩ := by
    refine Separation.ofLine?_eq_some_iff.2 ⟨?_, heven, huncut⟩
    rw [e.toList_text, ← hline, Separation.line, Separation.line, List.append_assoc, List.cons_append]
  have hshorter : (Text.trimBoth s.key).length < e.key.toList.length := by
    have hkey := congrArg List.length hline
    rw [Separation.line, List.length_append, List.length_cons] at hkey
    have htrim := Text.length_trimBoth_le s.key
    omega
  cases hread : ofEntryText e.text.toList with
  | error fault =>
    simp only [ofEntryText, hcut] at hread
    split at hread
    · exact .inl hread.symm
    · cases hread
  | ok l =>
    obtain ⟨t, own, ht, rfl, hkey, -, -⟩ := ofEntryText_eq_ok hread
    obtain rfl := Option.some.inj (hcut.symm.trans ht)
    exact .inr ⟨own, rfl, hkey ▸ hshorter⟩

/-- An entry is read from its text without a change exactly if its key could not be cut and its value does not
begin with white space. -/
theorem ofEntryText_text_eq_self_iff : ofEntryText e.text.toList = .ok (.entry e) ↔
    Separation.ofLine? e.key.toList = none ∧ Text.trimStart e.value.toList = e.value.toList := by
  cases hcut : Separation.ofLine? e.key.toList with
  | none =>
    rw [ofEntryText_text e hcut, Except.ok.injEq, entry.injEq, Entry.with_value_eq_self_iff, ← String.toList_inj,
      String.toList_ofList, and_iff_right rfl]
  | some s =>
    simp only [reduceCtorEq, false_and, iff_false]
    intro hself
    obtain hmissing | ⟨own, hown, hshorter⟩ := ofEntryText_text_of_cut hcut
    · cases hmissing.symm.trans hself
    · obtain rfl : own = e := by simpa using hown.symm.trans hself
      exact absurd hshorter (Nat.lt_irrefl _)

end ReadLine

namespace Entry

/-- An entry comes back from its text exactly if its key does not begin with a comment mark and holds no separator
that is not escaped, and its value does not begin with white space. With a comment mark the text is a comment, and
otherwise it is an entry or lacks a key. -/
theorem read_back_iff {key value : String} {separator : Char} {e : Entry} (h : make? key separator value = .ok e)
    (marker : String) :
    let again := ReadLine.ofText marker e.text.toList
    let first := e.key.toList.head?
    (e.key = Text.trim key ∧ e.separator.char = separator ∧ e.value = value) ∧
    (again = .ok (.entry e) ↔
      (first ≠ some '#' ∧ first ≠ some '!') ∧ Separation.AllEscaped e.key.toList ∧
        ∀ c ∈ e.value.toList.head?, Unicode.isWhiteSpace c = false) ∧
    (first = some '#' ∨ first = some '!' →
      ∃ c deferred, again = .ok (.comment c deferred) ∧ c.text = e.text) ∧
    (first ≠ some '#' → first ≠ some '!' →
      (∃ own, again = .ok (.entry own)) ∨ again = .error .missingKey) := by
  intro again first
  have hmarked : startsAsComment e.key.toList = true ↔ first = some '#' ∨ first = some '!' := startsAsComment_iff
  have hagain : again = _ := ReadLine.ofText_text_eq e marker
  refine ⟨parts_of_make? h, ?_, ?_, ?_⟩
  · rw [← not_or, ← hmarked, ← Separation.ofLine?_eq_none_iff_allEscaped, ← Text.trimStart_eq_self_iff,
      ← ReadLine.ofEntryText_text_eq_self_iff, hagain]
    split
    · rename_i hcomment
      simp [hcomment]
    · rename_i hcomment
      rw [and_iff_right hcomment]
  · intro hfirst
    have hcomment := hmarked.2 hfirst
    rw [hagain, if_pos hcomment]
    exact ⟨_, _, rfl, Comment.text_make (e.startsAsComment_text.trans hcomment)⟩
  · intro hhash hbang
    have hcomment : ¬ startsAsComment e.key.toList = true := fun hcomment =>
      (hmarked.1 hcomment).elim hhash hbang
    rw [hagain, if_neg hcomment]
    cases hcut : Separation.ofLine? e.key.toList with
    | none => exact .inl ⟨_, ReadLine.ofEntryText_text e hcut⟩
    | some s =>
      obtain hmissing | ⟨own, hown, -⟩ := ReadLine.ofEntryText_text_of_cut hcut
      · exact .inr hmissing
      · exact .inl ⟨own, hown⟩

/-- The separators of the key are behind one backslash and behind three, and the value begins with a separator. -/
theorem read_back_iff_escaped_key :
    ∃ e, make? " a\\=b\\\\\\:# " ':' "= v " = .ok e ∧ e.text = "a\\=b\\\\\\:# : = v " ∧
      ReadLine.ofText "==>" e.text.toList = .ok (.entry e) := by
  have hmake : (make? " a\\=b\\\\\\:# " ':' "= v ").toOption.map Entry.text = some "a\\=b\\\\\\:# : = v " := by
    decide +kernel
  cases h : make? " a\\=b\\\\\\:# " ':' "= v " with
  | error fault =>
    rw [h] at hmake
    cases hmake
  | ok e =>
    rw [h] at hmake
    obtain ⟨⟨hkey, -, hvalue⟩, hback, -⟩ := read_back_iff h "==>"
    have hkeyText : e.key = "a\\=b\\\\\\:#" := by
      rw [hkey]
      decide +kernel
    refine ⟨e, rfl, Option.some.inj hmake, hback.2 ?_⟩
    rw [hkeyText, hvalue]
    exact ⟨by decide, Separation.ofLine?_eq_none_iff_allEscaped.1 (by decide),
      Text.trimStart_eq_self_iff.1 (by decide)⟩

end Entry

end BundleCheck
