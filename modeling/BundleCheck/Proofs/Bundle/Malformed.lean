import BundleCheck.Proofs.Bundle.Index
import BundleCheck.Proofs.Bundle.Legible
import Mathlib.Data.List.TakeWhile

/-!
# Lines that cannot be read

A line that is neither blank nor a comment needs a key before its first boundary, and a line without one is
malformed. Reading stops at the first malformed line and at no other. What it has put together by then is what it
makes of the text that is cut before that line, and nothing of what the document held before is left.
-/

namespace BundleCheck

/-! ### Blank keys -/

namespace Text

open Unicode (isWhiteSpace)

theorem trimBoth_eq_nil_iff {s : List Char} : trimBoth s = [] ↔ isBlank s = true := by
  have hstart : trimStart s = [] ↔ isBlank s = true := by
    simp [trimStart, isBlank, List.dropWhile_eq_nil_iff]
  rw [← hstart, trimBoth, trimEnd, List.reverse_eq_nil_iff, List.dropWhile_eq_nil_iff]
  constructor
  · intro hall
    cases hs : trimStart s with
    | nil => rfl
    | cons c rest =>
      have hc := not_isWhiteSpace_of_mem_head?_trimStart s c (by rw [hs]; rfl)
      rw [hall c (by simp [hs])] at hc
      cases hc
  · intro h
    simp [h]

theorem trim_ofList_eq_empty_iff {s : List Char} : trim (String.ofList s) = "" ↔ isBlank s = true := by
  rw [← trimBoth_eq_nil_iff, ← String.toList_eq_nil_iff, trim, String.toList_ofList, String.toList_ofList]

end Text

open Separation (IsBoundary IsFirstBoundary)

/-- The line is no blank line and no comment, and it has no boundary or no key before the first one. -/
def IsMalformed (line : List Char) : Prop :=
  Text.isBlank line = false ∧ startsAsComment line = false ∧
    ((∀ front, ¬ IsBoundary line front) ∨ ∃ front, IsFirstBoundary line front ∧ Text.isBlank front = true)

/-! ### One line -/

/-- A key that is not blank and a separator make an entry. -/
theorem Entry.make?_trim {key : String} (h : Text.trim key ≠ "") (sep : Separator) (value : String) :
    make? (Text.trim key) sep.char value = .ok ⟨Text.trim key, sep, value, Text.trim_trim key, h⟩ := by
  have hsep : Separator.ofChar? sep.char = some sep := Separation.ofChar?_eq_some_iff.2 rfl
  simp [make?, hsep, Text.trim_trim, h]

namespace ReadLine

variable {marker : String} {line : List Char}

theorem ofEntryText_of_cut {s : Separation} (hcut : Separation.ofLine? line = some s)
    (hkey : Text.isBlank s.key = false) :
    ∃ e, Entry.make? (Text.trim (String.ofList s.key)) s.separator.char (String.ofList (Text.trimStart s.value)) =
        .ok e ∧ ofEntryText line = .ok (.entry e) := by
  have hne : Text.trim (String.ofList s.key) ≠ "" := by
    rw [ne_eq, Text.trim_ofList_eq_empty_iff, hkey]
    exact Bool.false_ne_true
  refine ⟨_, Entry.make?_trim hne s.separator _, ?_⟩
  simp [ofEntryText, hcut, hne]

theorem isMalformed_of_ofText {fault : LineFault} (h : ofText marker line = .error fault) :
    IsMalformed line ∧ (fault = .noSeparator ↔ ∀ front, ¬ IsBoundary line front) := by
  rw [ofText] at h
  split at h
  · cases h
  · rename_i hblank
    split at h
    · cases h
    · rename_i hcomment
      rw [Bool.not_eq_true] at hblank hcomment
      cases hcut : Separation.ofLine? line with
      | none =>
        have hnone := Separation.ofLine?_eq_none_iff.1 hcut
        simp only [ofEntryText, hcut, Except.error.injEq] at h
        exact ⟨⟨hblank, hcomment, .inl hnone⟩, iff_of_true h.symm hnone⟩
      | some s =>
        have hfirst := Separation.isFirstBoundary_key hcut
        cases hkey : Text.isBlank s.key with
        | false =>
          obtain ⟨e, -, he⟩ := ofEntryText_of_cut hcut hkey
          cases he.symm.trans h
        | true =>
          have hempty := Text.trim_ofList_eq_empty_iff.2 hkey
          simp only [ofEntryText, hcut, hempty, dif_pos, Except.error.injEq] at h
          refine ⟨⟨hblank, hcomment, .inr ⟨s.key, hfirst, hkey⟩⟩, iff_of_false ?_ ?_⟩
          · rw [← h]
            exact fun heq => by cases heq
          · exact fun hnone => hnone _ hfirst.1

theorem not_isMalformed_of_ofText {l : ReadLine} (h : ofText marker line = .ok l) : ¬ IsMalformed line := by
  intro hmalformed
  obtain ⟨hblank, hcomment, hcut⟩ := hmalformed
  rw [ofText, if_neg (by simp [hblank]), if_neg (by simp [hcomment])] at h
  obtain ⟨s, e, hs, -, hkey, -⟩ := ofEntryText_eq_ok h
  have hfirst := Separation.isFirstBoundary_key hs
  obtain hnone | hfront := hcut
  · exact hnone _ hfirst.1
  · obtain ⟨front, hfront, hempty⟩ := hfront
    rw [hfront.unique hfirst, ← Text.trimBoth_eq_nil_iff, ← hkey] at hempty
    exact e.toList_key_ne_nil hempty

end ReadLine

/-! ### Many lines -/

namespace Reading

variable {marker : String} {r : Reading} {number : Nat} {lines : List (List Char)}

theorem not_isMalformed_of_addLines (h : (r.addLines marker number lines).2 = none) :
    ∀ line ∈ lines, ¬ IsMalformed line := by
  induction lines generalizing r number with
  | nil => simp
  | cons line rest ih =>
    rw [addLines] at h
    split at h
    · cases h
    · rename_i l hl
      exact List.forall_mem_cons.2 ⟨ReadLine.not_isMalformed_of_ofText hl, ih h⟩

/-- What stops a reading is a malformed line, and the lines before it alone are read to the same end without a
stop. -/
theorem addLines_of_stop {stop : Stop} (h : (r.addLines marker number lines).2 = some stop) :
    ∃ i line, stop.line = number + i ∧ lines[i]? = some line ∧ ReadLine.ofText marker line = .error stop.fault ∧
      r.addLines marker number (lines.take i) = ((r.addLines marker number lines).1, none) := by
  induction lines generalizing r number with
  | nil => cases h
  | cons line rest ih =>
    rw [addLines] at h
    split at h
    · rename_i fault hfault
      obtain rfl : ⟨number, fault⟩ = stop := Option.some.inj h
      refine ⟨0, line, rfl, rfl, hfault, ?_⟩
      rw [List.take_zero, addLines, addLines, hfault]
    · rename_i l hl
      obtain ⟨i, bad, hnumber, hbad, hfault, htake⟩ := ih h
      refine ⟨i + 1, bad, ?_, hbad, hfault, ?_⟩
      · omega
      · rw [List.take_succ_cons, addLines, addLines, hl]
        exact htake

/-- The stop tells which line is the malformed one, and the text that is cut before it is read to the same end. -/
theorem ofText_of_stop {text : String} {stop : Stop} (h : (Reading.ofText marker text).2 = some stop) :
    (∃ line, 1 ≤ stop.line ∧ (Text.lines text.toList)[stop.line - 1]? = some line ∧ IsMalformed line ∧
      (stop.fault = .noSeparator ↔ ∀ front, ¬ IsBoundary line front)) ∧
    Reading.ofText marker (String.ofList (Text.firstLines (stop.line - 1) text.toList)) =
      ((Reading.ofText marker text).1, none) := by
  obtain ⟨i, line, hnumber, hline, hfault, htake⟩ := addLines_of_stop h
  obtain rfl : i = stop.line - 1 := by omega
  refine ⟨⟨line, by omega, hline, ReadLine.isMalformed_of_ofText hfault⟩, ?_⟩
  rw [Reading.ofText, String.toList_ofList, Text.lines_firstLines]
  exact htake

end Reading

/-! ### Documents -/

namespace Bundle

theorem content_read (s : Settings) (b : Bundle) (text : String) :
    (b.read s text).1.content = (Reading.ofText s.deferralMarker text).1.content := rfl

theorem stop_read (s : Settings) (b : Bundle) (text : String) :
    (b.read s text).2 = (Reading.ofText s.deferralMarker text).2 := rfl

theorem firstLine_of_stop_read {s : Settings} {b : Bundle} {text : String} {stop : Stop}
    (hstop : (b.read s text).2 = some stop) :
    let lines := Text.lines text.toList
    let cut := b.read s (String.ofList (Text.firstLines (stop.line - 1) text.toList))
    (∃ line, 1 ≤ stop.line ∧ lines[stop.line - 1]? = some line ∧ IsMalformed line ∧
      (stop.fault = .noSeparator ↔ ∀ front, ¬ IsBoundary line front)) ∧
    (∀ line ∈ lines.take (stop.line - 1), ¬ IsMalformed line) ∧
    cut.2 = none ∧ (b.read s text).1.content = cut.1.content ∧ (b.read s text).1.report = .empty := by
  intro lines cut
  obtain ⟨hline, hcut⟩ := Reading.ofText_of_stop hstop
  have hcutStop : cut.2 = none := by rw [stop_read, hcut]
  have hcontent : (b.read s text).1.content = cut.1.content := by rw [content_read, content_read, hcut]
  refine ⟨hline, ?_, hcutStop, hcontent, ?_⟩
  · rw [← Text.lines_firstLines, ← String.toList_ofList (l := Text.firstLines (stop.line - 1) text.toList)]
    exact Reading.not_isMalformed_of_addLines hcutStop
  · rw [stop_read] at hstop
    simp [read, hstop]

theorem stop_read_eq_none_iff {s : Settings} {b : Bundle} {text : String} :
    (b.read s text).2 = none ↔ ∀ line ∈ Text.lines text.toList, ¬ IsMalformed line := by
  rw [stop_read]
  refine ⟨Reading.not_isMalformed_of_addLines, fun hfine => ?_⟩
  cases hstop : (Reading.ofText s.deferralMarker text).2 with
  | none => rfl
  | some stop =>
    obtain ⟨⟨line, -, hline, hmalformed, -⟩, -⟩ := Reading.ofText_of_stop hstop
    exact absurd hmalformed (hfine line (List.mem_of_getElem? hline))

/-- If there is a pattern for deferred entries, a text is read without an error exactly if no line of it is malformed.
Otherwise reading stops at the first that is, with the content of the text cut before that line and an empty report. A
document that is loaded is read from the text of its file, or it stays as it is because there is no such text. -/
theorem read_up_to_malformed_line (s : Settings) (b : Bundle) :
    (Deferral.HasPattern s.deferralMarker → ∀ text : String,
      let after := (b.parse s text).1
      let lines := Text.lines text.toList
      after.file = b.file ∧ after.language = b.language ∧
      (∀ line ∈ lines, ∀ cut, Separation.ofLine? line = some cut → Text.isBlank cut.key = false →
        ∃ e, Entry.make? (Text.trim (String.ofList cut.key)) cut.separator.char
          (String.ofList (Text.trimStart cut.value)) = .ok e ∧ ReadLine.ofEntryText line = .ok (.entry e)) ∧
      ((b.parse s text).2 = none ↔ ∀ line ∈ lines, ¬ IsMalformed line) ∧
      ∀ error, (b.parse s text).2 = some error → ∃ stop, error = .malformed stop ∧
        let cut := b.parse s (String.ofList (Text.firstLines (stop.line - 1) text.toList))
        (∃ line, 1 ≤ stop.line ∧ lines[stop.line - 1]? = some line ∧ IsMalformed line ∧
          (stop.fault = .noSeparator ↔ ∀ front, ¬ IsBoundary line front)) ∧
        (∀ line ∈ lines.take (stop.line - 1), ¬ IsMalformed line) ∧
        cut.2 = none ∧ after.content = cut.1.content ∧ after.report = .empty) ∧
    ∀ (path : String) (w : World),
      let loaded := StateT.run (b.load s path : StateM World _) w
      loaded.2 = w ∧
      (loaded.1 = (b, some (.missing path)) ∧ w.tree.isPresent w.directory path = false ∨
        (∃ e, loaded.1 = (b, some (.unreadable e)) ∧ w.tree.read w.directory path = .error e) ∨
        ∃ text, w.tree.read w.directory path = .ok text ∧
          let after := { b with file := some path }.parse s text
          loaded.1 = (after.1, after.2.map (.ofReadError path))) := by
  refine ⟨fun hpattern text => ?_, load_cases s b⟩
  simp only [parse_of_hasPattern hpattern]
  refine ⟨rfl, rfl, fun line _ cut => ReadLine.ofEntryText_of_cut, ?_, fun error herror => ?_⟩
  · rw [Option.map_eq_none_iff]
    exact stop_read_eq_none_iff
  · obtain ⟨stop, hstop, rfl⟩ := Option.map_eq_some_iff.1 herror
    refine ⟨stop, rfl, ?_⟩
    rw [Option.map_eq_none_iff]
    exact firstLine_of_stop_read hstop

/-- The second line looks like a comment but is indented, and the fourth has no key. -/
theorem read_up_to_malformed_line_indented :
    let text := "a = 1\n # b = 2\r\n# ==> c =\n  = 3\n\nd = 4"
    let b := (Bundle.ofLanguage "de").parse .standard "z = 0"
    let after := b.1.parse .standard text
    let stop : Stop := ⟨4, .missingKey⟩
    let front := String.ofList (Text.firstLines (stop.line - 1) text.toList)
    Deferral.HasPattern Settings.standard.deferralMarker ∧ after.2 = some (.malformed stop) ∧
      front = "a = 1\n # b = 2\r\n# ==> c =\n" ∧
      after.1.content = (b.1.parse .standard front).1.content ∧ after.1.content.keys = ["a", "# b"] ∧
      after.1.content.deferred = ["c"] ∧ after.1.language = b.1.language ∧ after.1.report = .empty := by
  intro text b after stop front
  have hpattern : Deferral.HasPattern Settings.standard.deferralMarker := by decide +kernel
  have hstop : after.2 = some (.malformed stop) := by decide +kernel
  have hkeys : after.1.content.keys = ["a", "# b"] := by decide +kernel
  have hdeferred : after.1.content.deferred = ["c"] := by decide +kernel
  have hfront : front = "a = 1\n # b = 2\r\n# ==> c =\n" := by decide +kernel
  clear_value text b stop
  obtain ⟨hread, -⟩ := read_up_to_malformed_line .standard b.1
  obtain ⟨-, hlanguage, -, -, hend⟩ := hread hpattern text
  obtain ⟨_, hsame, -, -, -, hcontent, hreport⟩ := hend (.malformed stop) hstop
  obtain rfl := ReadError.malformed.inj hsame
  exact ⟨hpattern, hstop, hfront, hcontent, hkeys, hdeferred, hlanguage, hreport⟩

end Bundle

end BundleCheck
