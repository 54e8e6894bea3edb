import BundleCheck.Proofs.Bundle.RoundTrip

/-!
# Updating what an update has written

An updated translation that has been written is read before it is updated again. What the second update
finds are the entries that come back from the file, and it puts a new comment in the place of each that
does not. Between two updates nothing is lost and the text stays the same exactly if each entry that was
taken over from the translation is durable.
-/

namespace BundleCheck

/-- The content of a text, if all of it can be read. -/
def Content.ofText? (marker text : String) : Option Content :=
  match Reading.ofText marker text with
  | (r, none) => some r.content
  | (_, some _) => none

namespace Content

variable {d : Content} {marker text : String}

theorem ofText?_eq_some_iff : ofText? marker text = some d ↔
    (Reading.ofText marker text).2 = none ∧ (Reading.ofText marker text).1.content = d := by
  rw [ofText?]
  rcases Reading.ofText marker text with ⟨r, stop⟩
  cases stop <;> simp

theorem coherent_of_ofText? (h : ofText? marker text = some d) : d.Coherent := by
  rw [← (ofText?_eq_some_iff.1 h).2]
  exact (Reading.coherent_ofText marker text).content

theorem legible_of_ofText? (h : ofText? marker text = some d) : ∀ l ∈ d.lines, l.Legible := by
  rw [← (ofText?_eq_some_iff.1 h).2]
  exact Reading.legible_ofText marker text

theorem ofText?_text (hlegible : ∀ l ∈ d.lines, l.Legible) (marker : String) :
    ofText? marker d.text = some (ofLines marker (rereadLines d.lines)) :=
  ofText?_eq_some_iff.2 (Reading.addLines_of_readsAs (readsAs_text hlegible marker) Reading.Coherent.start 1)

/-! ### Entries that come back -/

/-- The entry as it comes back from a file, if it does not come back as a comment. -/
def reread? (e : Entry) : Option Entry := Line.entry? (Line.entry e).reread

theorem reread?_eq_none_iff {e : Entry} : reread? e = none ↔ startsAsComment e.key.toList = true := by
  rw [reread?, Line.reread]
  cases startsAsComment e.key.toList with
  | true => simp [Line.entry?]
  | false => simp [Line.entry?]

theorem reread?_eq_self_iff {e : Entry} : reread? e = some e ↔ (Line.entry e).Durable := by
  rw [← Line.reread_eq_self_iff, reread?]
  cases (Line.entry e).reread with
  | entry own =>
    exact ⟨fun h => congrArg Line.entry (Option.some.inj h), fun h => congrArg some (Line.entry.inj h)⟩
  | comment c => simp [Line.entry?]
  | blank => simp [Line.entry?]

theorem durable_of_text_eq {e own : Entry} (h : reread? e = some own) (htext : own.text = e.text) :
    (Line.entry e).Durable := by
  have hkey : startsAsComment e.key.toList = false := by
    rw [← Bool.not_eq_true, ← reread?_eq_none_iff, h]
    exact Option.some_ne_none own
  rw [reread?, Line.reread, hkey] at h
  have hvalue := congrArg String.toList htext
  rw [← Option.some.inj h] at hvalue
  simp only [Entry.toList_text, String.toList_ofList, List.append_cancel_left_eq, List.cons.injEq,
    true_and] at hvalue
  exact ⟨hkey, Text.dropReturn_eq_self_iff.1 hvalue⟩

theorem entryFor?_reread (key : String) (l : Line) :
    l.reread.entryFor? key = (l.entryFor? key).bind reread? := by
  cases l with
  | entry e =>
    by_cases hkey : e.key = key
    · rw [Line.entryFor?_eq_some_iff.2 ⟨rfl, hkey⟩, Option.bind_some, reread?, Line.reread]
      cases startsAsComment e.key.toList with
      | true => rfl
      | false => exact if_pos hkey
    · rw [Line.entryFor?, if_neg hkey, Option.bind_none, Line.reread]
      cases startsAsComment e.key.toList with
      | true => rfl
      | false => exact if_neg hkey
  | comment c => rfl
  | blank => rfl

theorem findSome?_map_reread (key : String) (lines : List Line) :
    (lines.map Line.reread).findSome? (Line.entryFor? key) =
      (lines.findSome? (Line.entryFor? key)).bind reread? := by
  induction lines with
  | nil => rfl
  | cons l rest ih =>
    rw [List.map_cons, List.findSome?_cons, List.findSome?_cons, entryFor?_reread, ih]
    cases hl : l.entryFor? key with
    | none => rfl
    | some e =>
      rw [Option.bind_some]
      cases hback : reread? e with
      | some own => rfl
      | none =>
        -- Whether an entry comes back is up to its key, so no other entry for the key comes back either.
        have hcomment := reread?_eq_none_iff.1 hback
        rw [(Line.entryFor?_eq_some_iff.1 hl).2] at hcomment
        refine Option.bind_eq_none_iff.2 fun own hown => ?_
        obtain ⟨l', -, hl'⟩ := List.exists_of_findSome?_eq_some hown
        rw [reread?_eq_none_iff, (Line.entryFor?_eq_some_iff.1 hl').2]
        exact hcomment

theorem findSome?_rereadLines (key : String) (lines : List Line) :
    (rereadLines lines).findSome? (Line.entryFor? key) =
      (lines.findSome? (Line.entryFor? key)).bind reread? := by
  rw [rereadLines, findSome?_map_reread]
  split
  · rename_i hlast
    obtain ⟨front, rfl⟩ := List.getLast?_eq_some_iff.1 hlast
    rw [List.dropLast_concat, List.findSome?_append]
    simp [Line.entryFor?]
  · rfl

theorem entry?_rereadLines (hnodup : (keysOf d.lines).Nodup) (marker key : String) :
    Content.entry? (ofLines marker (rereadLines d.lines)) key = (d.entry? key).bind reread? := by
  rw [Content.entry?, lines_ofLines (nodup_keysOf_rereadLines hnodup), findSome?_rereadLines]
  rfl

/-! ### Two updates -/

variable {s : Settings} {reference : Content}

theorem entry?_update (hd : d.Coherent) (hreference : reference.Coherent) {key : String}
    (hkey : key ∈ reference.keys) : Content.entry? (d.update s reference) key = d.entry? key := by
  have hupdated := Coherent.update s d reference
  cases hown : d.entry? key with
  | none =>
    rw [hupdated.entry?_eq_none_iff, keys_update hd hreference, List.mem_filter, hd.contains_iff]
    exact fun h => hd.entry?_eq_none_iff.1 hown h.2
  | some own =>
    rw [hreference.keys_eq] at hkey
    obtain ⟨e, he, rfl⟩ := exists_entry_of_mem_keysOf hkey
    rw [hupdated.entry?_eq_some_iff, lines_update hd hreference, List.mem_flatMap]
    refine ⟨⟨_, he, ?_⟩, (mem_of_entry?_eq_some hown).2⟩
    have hmem := counterpart_mem_replacement s d e
    rwa [counterpart, hown] at hmem

theorem flatMap_eq_flatMap_iff {α β : Type} {f g : α → List β} {l : List α}
    (hlength : ∀ a ∈ l, (f a).length = (g a).length) : l.flatMap f = l.flatMap g ↔ ∀ a ∈ l, f a = g a := by
  induction l with
  | nil => simp
  | cons a rest ih =>
    obtain ⟨ha, hrest⟩ := List.forall_mem_cons.1 hlength
    rw [List.flatMap_cons, List.flatMap_cons, List.forall_mem_cons, ← ih hrest]
    constructor
    · exact fun h => List.append_inj h ha
    · rintro ⟨hhead, htail⟩
      rw [hhead, htail]

/-- Two updates from one reference write the same text if they write the same for each of its entries. -/
theorem text_update_eq_iff (hs : s.IsValid) {d' : Content} (hd : d.Coherent) (hd' : d'.Coherent)
    (hlegible : ∀ l ∈ d.lines, l.Legible) (hlegible' : ∀ l ∈ d'.lines, l.Legible)
    (hreference : reference.Coherent) (hlegibleReference : ∀ l ∈ reference.lines, l.Legible) :
    (d'.update s reference).text = (d.update s reference).text ↔
      ∀ e, .entry e ∈ reference.lines → (d'.counterpart s e).text = (d.counterpart s e).text := by
  have hone : ∀ {c : Content}, (∀ l ∈ c.lines, l.Legible) →
      ∀ text ∈ (c.update s reference).lines.map fun l => l.text.toList, '\n' ∉ text := by
    intro c hc text htext
    obtain ⟨l, hl, rfl⟩ := List.mem_map.1 htext
    exact (legible_update hs hc hlegibleReference l hl).not_mem_text
  have hlength : ∀ l ∈ reference.lines, ((d'.replacement s l).map fun l => l.text.toList).length =
      ((d.replacement s l).map fun l => l.text.toList).length := by
    intro l _
    cases l with
    | entry e =>
      rw [replacement, replacement]
      split <;> rfl
    | comment c => rfl
    | blank => rfl
  have hlines : (d'.update s reference).text = (d.update s reference).text ↔
      (d'.update s reference).lines.map (fun l => l.text.toList) =
        (d.update s reference).lines.map fun l => l.text.toList := by
    rw [← String.toList_inj, toList_text, toList_text]
    refine ⟨Text.eq_of_intercalate_eq (hone hlegible') (hone hlegible) ?_, fun h => by rw [h]⟩
    rw [lines_update hd' hreference, lines_update hd hreference, List.map_flatMap, List.map_flatMap,
      List.length_flatMap, List.length_flatMap, List.map_congr_left hlength]
  rw [hlines, lines_update hd' hreference, lines_update hd hreference, List.map_flatMap, List.map_flatMap,
    flatMap_eq_flatMap_iff hlength]
  constructor
  · intro h e he
    have hentry := h _ he
    rw [replacement, replacement] at hentry
    refine String.toList_inj.1 ?_
    split at hentry <;> simpa using hentry
  · intro h l hl
    cases l with
    | entry e =>
      rw [replacement, replacement]
      split <;> simp [h e hl]
    | comment c => rfl
    | blank => rfl

theorem entry?_reread_update (hd : d.Coherent) (hreference : reference.Coherent) {key : String}
    (hkey : key ∈ reference.keys) (marker : String) :
    Content.entry? (ofLines marker (rereadLines (d.update s reference).lines)) key =
      (d.entry? key).bind reread? := by
  have hwritten := Coherent.update s d reference
  rw [← entry?_update hd hreference hkey]
  exact entry?_rereadLines (hwritten.keys_eq ▸ hwritten.keys_nodup) marker key

/-- What a translation has written by an update is the text of the next update too, with all entries still
in it, exactly if each entry that was taken over comes back as it was. -/
theorem update_reread_iff (hs : s.IsValid) (hd : d.Coherent) (hlegible : ∀ l ∈ d.lines, l.Legible)
    (hreference : reference.Coherent) (hlegibleReference : ∀ l ∈ reference.lines, l.Legible) :
    let written := d.update s reference
    let back := ofLines s.deferralMarker (rereadLines written.lines)
    ((back.update s reference).text = written.text ∧ ∀ key ∈ written.keys, key ∈ back.keys) ↔
      ∀ e, .entry e ∈ d.lines → e.key ∈ reference.keys → (Line.entry e).Durable := by
  intro written back
  have hback : back.Coherent := .ofLines _ _
  have hlegibleBack : ∀ l ∈ back.lines, l.Legible :=
    legible_of_ofText? (ofText?_text (legible_update hs hlegible hlegibleReference) s.deferralMarker)
  have hentry : ∀ key ∈ reference.keys, back.entry? key = (d.entry? key).bind reread? :=
    fun key hkey => entry?_reread_update hd hreference hkey _
  have hkeys : ∀ key, key ∈ written.keys ↔ key ∈ reference.keys ∧ key ∈ d.keys := by
    intro key
    show key ∈ (d.update s reference).keys ↔ _
    rw [keys_update hd hreference, List.mem_filter, hd.contains_iff]
  rw [text_update_eq_iff hs hd hback hlegible hlegibleBack hreference hlegibleReference]
  constructor
  · rintro ⟨htext, hkept⟩ own hown hkey
    have hfound : d.entry? own.key = some own := hd.entry?_eq_some_iff.2 ⟨hown, rfl⟩
    have hbackOwn := hentry own.key hkey
    rw [hfound, Option.bind_some] at hbackOwn
    cases hreread : reread? own with
    | none =>
      rw [hreread, hback.entry?_eq_none_iff] at hbackOwn
      exact absurd (hkept _ ((hkeys _).2 ⟨hkey, hd.keys_eq ▸ mem_keysOf hown⟩)) hbackOwn
    | some again =>
      obtain ⟨e, he, heKey⟩ := exists_entry_of_mem_keysOf (hreference.keys_eq ▸ hkey)
      have hsame := htext e he
      rw [counterpart, counterpart, heKey, hfound, hbackOwn, hreread] at hsame
      exact durable_of_text_eq hreread hsame
  · intro hdurable
    have hsame : ∀ key ∈ reference.keys, back.entry? key = d.entry? key := by
      intro key hkey
      rw [hentry key hkey]
      cases hfound : d.entry? key with
      | none => rfl
      | some own =>
        obtain ⟨hown, rfl⟩ := hd.entry?_eq_some_iff.1 hfound
        exact reread?_eq_self_iff.2 (hdurable own hown hkey)
    refine ⟨fun e he => ?_, fun key hkey => ?_⟩
    · rw [counterpart, counterpart, hsame e.key (hreference.keys_eq ▸ mem_keysOf he)]
    · obtain ⟨hreferenceKey, hdKey⟩ := (hkeys key).1 hkey
      by_contra hlost
      rw [← hback.entry?_eq_none_iff, hsame key hreferenceKey, hd.entry?_eq_none_iff] at hlost
      exact hlost hdKey

end Content

end BundleCheck
