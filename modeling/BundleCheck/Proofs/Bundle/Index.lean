import BundleCheck.Run.Loading

/-!
# The index of a content

A content keeps its keys three times: in its lines, in file order and for looking up. Each operation on
a document touches some of them by hand, and reading can stop in the middle of a file. `Coherent` says
that they agree, each operation keeps it, and so it holds of every document that operations can make.
What the checks and the update rely on then follows: looking a key up and searching for its entry give
the same answer, and there is one entry at most.
-/

namespace BundleCheck

theorem Line.entryFor?_eq_some_iff {key : String} {l : Line} {e : Entry} :
    l.entryFor? key = some e ↔ l = .entry e ∧ e.key = key := by
  cases l with
  | entry own =>
    by_cases hkey : own.key = key
    · simp only [Line.entryFor?, hkey, if_true, Option.some.injEq, Line.entry.injEq]
      exact ⟨fun h => ⟨h, h ▸ hkey⟩, And.left⟩
    · simp only [Line.entryFor?, hkey, if_false, reduceCtorEq, Line.entry.injEq, false_iff]
      rintro ⟨rfl, h⟩
      exact hkey h
  | comment c => simp [Line.entryFor?]
  | blank => simp [Line.entryFor?]

theorem keysOf_cons (line : Line) (rest : List Line) : keysOf (line :: rest) = keysOf [line] ++ keysOf rest :=
  keysOf_append [line] rest

theorem mem_keysOf {lines : List Line} {e : Entry} (h : .entry e ∈ lines) : e.key ∈ keysOf lines :=
  List.mem_filterMap.2 ⟨_, h, rfl⟩

theorem exists_entry_of_mem_keysOf {lines : List Line} {key : String} (h : key ∈ keysOf lines) :
    ∃ e, .entry e ∈ lines ∧ e.key = key := by
  obtain ⟨line, hline, hkey⟩ := List.mem_filterMap.1 h
  cases line with
  | entry e => exact ⟨e, hline, Option.some.inj hkey⟩
  | comment c => cases hkey
  | blank => cases hkey

namespace Content

theorem keys_deferAny (d : Content) (key : Option String) : (d.deferAny key).keys = d.keys := by
  cases key with
  | none => rfl
  | some key =>
    rw [deferAny, defer]
    split <;> rfl

/-- The parts of a content agree. -/
structure Coherent (d : Content) : Prop where
  keys_eq : d.keys = keysOf d.lines
  mem_known : ∀ key, key ∈ d.known ↔ key ∈ d.keys
  keys_nodup : d.keys.Nodup
  deferred_nodup : d.deferred.Nodup

namespace Coherent

variable {d : Content}

theorem contains_iff (hd : d.Coherent) {key : String} : d.contains key = true ↔ key ∈ d.keys := by
  rw [contains, List.contains_iff_mem]
  exact hd.mem_known key

/-! ### Steps -/

theorem empty : Content.empty.Coherent :=
  ⟨rfl, fun _ => Iff.rfl, List.nodup_nil, List.nodup_nil⟩

theorem pushEntry (hd : d.Coherent) {e : Entry} (hnew : e.key ∉ d.keys) : (d.pushEntry e).Coherent where
  keys_eq := by
    show d.keys ++ [e.key] = keysOf (d.lines ++ [.entry e])
    rw [keysOf_append, keysOf_entry, hd.keys_eq]
  mem_known key := by
    show key ∈ d.known.insert e.key ↔ key ∈ d.keys ++ [e.key]
    rw [List.mem_insert_iff, List.mem_append, List.mem_singleton, hd.mem_known key]
    exact or_comm
  keys_nodup := by
    refine List.nodup_append.2 ⟨hd.keys_nodup, by simp, fun a ha b hb => ?_⟩
    rintro rfl
    exact hnew (List.mem_singleton.1 hb ▸ ha)
  deferred_nodup := hd.deferred_nodup

theorem pushComment (hd : d.Coherent) (c : Comment) : (d.pushComment c).Coherent where
  keys_eq := by
    show d.keys = keysOf (d.lines ++ [.comment c])
    rw [keysOf_append, keysOf_comment, List.append_nil, hd.keys_eq]
  mem_known := hd.mem_known
  keys_nodup := hd.keys_nodup
  deferred_nodup := hd.deferred_nodup

theorem pushBlank (hd : d.Coherent) : d.pushBlank.Coherent where
  keys_eq := by
    show d.keys = keysOf (d.lines ++ [.blank])
    rw [keysOf_append, keysOf_blank, List.append_nil, hd.keys_eq]
  mem_known := hd.mem_known
  keys_nodup := hd.keys_nodup
  deferred_nodup := hd.deferred_nodup

theorem defer (hd : d.Coherent) (key : String) : (d.defer key).Coherent := by
  unfold Content.defer
  split
  · exact hd
  · rename_i hfresh
    have hnew : key ∉ d.deferred := by simpa [defers] using hfresh
    refine ⟨hd.keys_eq, hd.mem_known, hd.keys_nodup, ?_⟩
    refine List.nodup_append.2 ⟨hd.deferred_nodup, by simp, fun a ha b hb => ?_⟩
    rintro rfl
    exact hnew (List.mem_singleton.1 hb ▸ ha)

theorem deferAny (hd : d.Coherent) (key : Option String) : (d.deferAny key).Coherent := by
  cases key with
  | none => exact hd
  | some key => exact hd.defer key

theorem append (hd : d.Coherent) {line : Line} {d' : Content} (h : d.append line = .ok d') :
    d'.Coherent := by
  cases line with
  | entry e =>
    by_cases htaken : d.contains e.key = true
    · simp [Content.append, htaken] at h
    · simp only [Content.append, htaken, Bool.false_eq_true, if_false, Except.ok.injEq] at h
      exact h ▸ hd.pushEntry fun hmem => htaken (hd.contains_iff.2 hmem)
  | comment c => exact Except.ok.inj h ▸ hd.pushComment c
  | blank => exact Except.ok.inj h ▸ hd.pushBlank

theorem take (hd : d.Coherent) (marker : String) (line : Line) : (d.take marker line).Coherent := by
  cases line with
  | entry e =>
    simp only [Content.take]
    split
    · exact hd
    · rename_i hfree
      exact hd.pushEntry fun hmem => hfree (hd.contains_iff.2 hmem)
  | comment c => exact (hd.deferAny _).pushComment c
  | blank => exact hd.pushBlank

theorem foldl_take (marker : String) (lines : List Line) {d : Content} (hd : d.Coherent) :
    (lines.foldl (Content.take marker) d).Coherent := by
  induction lines generalizing d with
  | nil => exact hd
  | cons line rest ih => exact ih (hd.take marker line)

theorem ofLines (marker : String) (lines : List Line) : (Content.ofLines marker lines).Coherent :=
  foldl_take marker lines empty

theorem update (s : Settings) (d reference : Content) : (d.update s reference).Coherent :=
  ofLines s.deferralMarker _

/-! ### Looking up -/

theorem contains_eq_isSome (hd : d.Coherent) (key : String) :
    d.contains key = (d.entry? key).isSome := by
  have hsearch : (d.entry? key).isSome = true ↔ key ∈ d.keys := by
    rw [hd.keys_eq, entry?, List.isSome_findSome?]
    simp [keysOf, Line.isSome_entryFor?]
  exact Bool.eq_iff_iff.2 (hd.contains_iff.trans hsearch.symm)

end Coherent

theorem mem_of_entry?_eq_some {d : Content} {key : String} {e : Entry} (h : d.entry? key = some e) :
    .entry e ∈ d.lines ∧ e.key = key := by
  obtain ⟨line, hmem, hfor⟩ := List.exists_of_findSome?_eq_some h
  obtain ⟨rfl, hkey⟩ := Line.entryFor?_eq_some_iff.1 hfor
  exact ⟨hmem, hkey⟩

theorem filter_key?_eq_singleton {lines : List Line} (hnodup : (keysOf lines).Nodup) {e : Entry}
    (hmem : .entry e ∈ lines) : lines.filter (fun l => l.key? = some e.key) = [.entry e] := by
  induction lines with
  | nil => cases hmem
  | cons line rest ih =>
    rw [keysOf, List.filterMap_cons] at hnodup
    rcases List.mem_cons.1 hmem with rfl | hrest
    · have hfresh : ∀ l ∈ rest, ¬ l.key? = some e.key := fun l hl hkey =>
        (List.nodup_cons.1 hnodup).1 (List.mem_filterMap.2 ⟨l, hl, hkey⟩)
      have htail : rest.filter (fun l => l.key? = some e.key) = [] :=
        List.filter_eq_nil_iff.2 fun l hl => by simpa using hfresh l hl
      rw [List.filter_cons_of_pos (by simp [Line.key?, Line.entry?]), htail]
    · have hkey := mem_keysOf hrest
      cases hline : line.key? with
      | none =>
        rw [hline] at hnodup
        rw [List.filter_cons_of_neg (by simp [hline]), ih hnodup hrest]
      | some key =>
        rw [hline] at hnodup
        obtain ⟨hfresh, hrestNodup⟩ := List.nodup_cons.1 hnodup
        have hne : key ≠ e.key := fun h => hfresh (h ▸ hkey)
        rw [List.filter_cons_of_neg (by simpa [hline] using hne), ih hrestNodup hrest]

/-- Searching for a key finds the one entry that has it. -/
theorem Coherent.entry?_eq_some_iff {d : Content} (hd : d.Coherent) {key : String} {e : Entry} :
    d.entry? key = some e ↔ .entry e ∈ d.lines ∧ e.key = key := by
  refine ⟨mem_of_entry?_eq_some, ?_⟩
  rintro ⟨hmem, rfl⟩
  have hkey : e.key ∈ d.keys := hd.keys_eq ▸ mem_keysOf hmem
  have hfound := hd.contains_eq_isSome e.key
  rw [hd.contains_iff.2 hkey] at hfound
  obtain ⟨own, hown⟩ := Option.isSome_iff_exists.1 hfound.symm
  obtain ⟨hownMem, hownKey⟩ := mem_of_entry?_eq_some hown
  have hfilter := filter_key?_eq_singleton (hd.keys_eq ▸ hd.keys_nodup) hmem
  have hboth : .entry own ∈ d.lines.filter (fun l => l.key? = some e.key) :=
    List.mem_filter.2 ⟨hownMem, by simp [Line.key?, Line.entry?, hownKey]⟩
  rw [hfilter, List.mem_singleton] at hboth
  rw [hown, Line.entry.inj hboth]

theorem Coherent.entry?_eq_none_iff {d : Content} (hd : d.Coherent) {key : String} :
    d.entry? key = none ↔ key ∉ d.keys := by
  rw [← hd.contains_iff, hd.contains_eq_isSome, Option.not_isSome_iff_eq_none]

end Content

theorem exists_eq_cons_of_startsAsComment {s : List Char} (h : startsAsComment s = true) :
    ∃ rest, s = '#' :: rest ∨ s = '!' :: rest := by
  cases s with
  | nil => cases h
  | cons c rest =>
    simp only [startsAsComment, isCommentMarker, List.head?_cons, Option.any_some, Bool.or_eq_true,
      beq_iff_eq] at h
    rcases h with rfl | rfl
    · exact ⟨rest, .inl rfl⟩
    · exact ⟨rest, .inr rfl⟩

/-! ### Reading -/

namespace Reading

/-- What has been read is coherent, and the lines of the keys are those of all keys that it has. -/
structure Coherent (r : Reading) : Prop where
  content : r.content.Coherent
  isSome_lookup : ∀ key, (r.sources.lookup key).isSome = true ↔ key ∈ r.content.keys

theorem Coherent.start : Reading.start.Coherent :=
  ⟨Content.Coherent.empty, fun key => by simp [Reading.start, Content.empty]⟩

theorem Coherent.add {r : Reading} (hr : r.Coherent) (number : Nat) (line : ReadLine) :
    (r.add number line).Coherent := by
  cases line with
  | entry e =>
    cases hlookup : r.sources.lookup e.key with
    | some first =>
      simp only [Reading.add, hlookup]
      exact ⟨hr.content, hr.isSome_lookup⟩
    | none =>
      simp only [Reading.add, hlookup]
      have hnew : e.key ∉ r.content.keys := fun hmem => by
        have := (hr.isSome_lookup e.key).2 hmem
        rw [hlookup] at this
        cases this
      refine ⟨hr.content.pushEntry hnew, fun key => ?_⟩
      show (((e.key, number) :: r.sources).lookup key).isSome = true ↔ key ∈ r.content.keys ++ [e.key]
      rw [List.lookup_cons, List.mem_append, List.mem_singleton, ← hr.isSome_lookup key]
      by_cases hkey : key = e.key
      · simp [hkey]
      · rw [beq_eq_false_iff_ne.2 hkey]
        simp only [hkey, or_false]
  | comment c deferred =>
    refine ⟨(hr.content.deferAny deferred).pushComment c, fun key => ?_⟩
    show _ ↔ key ∈ (r.content.deferAny deferred).keys
    rw [Content.keys_deferAny]
    exact hr.isSome_lookup key
  | blank => exact ⟨hr.content.pushBlank, hr.isSome_lookup⟩

theorem Coherent.addLines {r : Reading} (hr : r.Coherent) (marker : String) (number : Nat)
    (lines : List (List Char)) : (r.addLines marker number lines).1.Coherent := by
  induction lines generalizing r number with
  | nil => exact hr
  | cons line rest ih =>
    rw [Reading.addLines]
    split
    · exact hr
    · exact ih (hr.add number _) (number + 1)

theorem coherent_ofText (marker text : String) : (Reading.ofText marker text).1.Coherent :=
  Coherent.start.addLines marker 1 _

end Reading

/-! ### Documents -/

namespace Bundle

/-! ### Under a pattern that there is, and under none -/

section Patterns

open Deferral

variable {s : Settings} {b reference : Bundle} {text language : String} {fault : Pattern.Fault}

theorem parse_of_error (h : pattern s.deferralMarker = .error fault) :
    b.parse s text = (b, some (.pattern fault)) := by
  rw [parse, h]

theorem parse_of_hasPattern (h : HasPattern s.deferralMarker) :
    b.parse s text = ((b.read s text).1, (b.read s text).2.map .malformed) := by
  obtain ⟨p, hp⟩ := h.exists_pattern
  rw [parse, hp]

theorem rebuild_of_error (h : pattern s.deferralMarker = .error fault) : b.rebuild s reference = .error fault := by
  rw [rebuild, h]
  rfl

theorem rebuild_of_hasPattern (h : HasPattern s.deferralMarker) :
    b.rebuild s reference = .ok (b.update s reference) := by
  obtain ⟨p, hp⟩ := h.exists_pattern
  rw [rebuild, hp]
  rfl

theorem create_of_hasPattern (h : HasPattern s.deferralMarker) :
    create s reference language = .ok (createFrom s reference language) :=
  rebuild_of_hasPattern h

theorem file_of_read {b' : Bundle} {stop : Option Stop} (h : b.read s text = (b', stop)) : b'.file = b.file := by
  rw [show b' = (b.read s text).1 from (congrArg Prod.fst h).symm]
  rfl

/-- What comes of a text is the bundle as it was, or what has been read. -/
theorem parse_cases (s : Settings) (b : Bundle) (text : String) :
    (b.parse s text).1 = b ∨ (b.parse s text).1 = (b.read s text).1 := by
  rcases hasPattern_or_error s.deferralMarker with h | ⟨fault, h⟩
  · exact .inr (by rw [parse_of_hasPattern h])
  · exact .inl (by rw [parse_of_error h])

/-- What is parsed without a fault has been read without one. -/
theorem read_of_parse (h : (b.parse s text).2 = none) : b.read s text = ((b.parse s text).1, none) := by
  rcases hasPattern_or_error s.deferralMarker with hpattern | ⟨fault, hpattern⟩
  · rw [parse_of_hasPattern hpattern] at h ⊢
    exact Prod.ext rfl (Option.map_eq_none_iff.1 h)
  · rw [parse_of_error hpattern] at h
    cases h

theorem file_parse (s : Settings) (b : Bundle) (text : String) : (b.parse s text).1.file = b.file := by
  rcases parse_cases s b text with h | h <;> rw [h]
  rfl

theorem rebuild_eq_ok_iff {b' : Bundle} :
    b.rebuild s reference = .ok b' ↔ HasPattern s.deferralMarker ∧ b.update s reference = b' := by
  rcases hasPattern_or_error s.deferralMarker with h | ⟨fault, h⟩
  · simp [rebuild_of_hasPattern h, h]
  · simp [rebuild_of_error h, not_hasPattern_of_error h]

end Patterns

/-- Reading what a file holds, or the reason why there is nothing to read. -/
theorem load_cases (s : Settings) (b : Bundle) (path : String) (w : World) :
    let loaded := StateT.run (b.load s path : StateM World _) w
    loaded.2 = w ∧
    (loaded.1 = (b, some (.missing path)) ∧ w.tree.isPresent w.directory path = false ∨
      (∃ e, loaded.1 = (b, some (.unreadable e)) ∧ w.tree.read w.directory path = .error e) ∨
      ∃ text, w.tree.read w.directory path = .ok text ∧
        let after := { b with file := some path }.parse s text
        loaded.1 = (after.1, after.2.map (.ofReadError path))) := by
  have hisPresent : StateT.run (Host.isPresent path : StateM World Bool) w =
      Pure.pure (w.tree.isPresent w.directory path, w) := rfl
  have hread : StateT.run (Host.read path : StateM World (Except FileError String)) w =
      Pure.pure (w.tree.read w.directory path, w) := rfl
  intro loaded
  have hloaded : loaded = StateT.run (b.load s path : StateM World _) w := rfl
  rw [load, StateT.run_bind, hisPresent, pure_bind] at hloaded
  cases hpresent : w.tree.isPresent w.directory path with
  | false =>
    simp only [hpresent, Bool.false_eq_true, if_false] at hloaded
    rw [hloaded]
    exact ⟨rfl, .inl ⟨rfl, rfl⟩⟩
  | true =>
    simp only [hpresent, if_true] at hloaded
    rw [StateT.run_bind, hread, pure_bind] at hloaded
    cases htext : w.tree.read w.directory path with
    | error e =>
      simp only [htext] at hloaded
      rw [hloaded]
      exact ⟨rfl, .inr (.inl ⟨e, rfl, rfl⟩)⟩
    | ok text =>
      simp only [htext] at hloaded
      rw [hloaded]
      have hsource : ({ b with file := some path }.parse s text).1.sourceName = path := by
        rw [sourceName, file_parse]
        rfl
      refine ⟨rfl, .inr (.inr ⟨text, rfl, ?_⟩)⟩
      exact congrArg (fun source => (_, Option.map (LoadError.ofReadError source) _)) hsource

theorem load_eq_or_parse (s : Settings) (b : Bundle) (path : String) (w : World) :
    ((b.load s path : StateM World _) w).1.1 = b ∨
      ∃ text, ((b.load s path : StateM World _) w).1.1 = ({ b with file := some path }.parse s text).1 := by
  obtain ⟨-, ⟨hloaded, -⟩ | ⟨e, hloaded, -⟩ | ⟨text, -, hloaded⟩⟩ := load_cases s b path w
  · exact .inl (congrArg Prod.fst hloaded)
  · exact .inl (congrArg Prod.fst hloaded)
  · exact .inr ⟨text, congrArg Prod.fst hloaded⟩

/-- The documents that the operations make, in any order and whether they succeed or not, and those that come of
reading and updating without a pattern for deferred entries. A copy of a document is the document itself. -/
inductive Built : Bundle → Prop
  | empty : Built .empty
  | ofLanguage (language : String) : Built (.ofLanguage language)
  | parse {b : Bundle} (s : Settings) (text : String) (hb : Built b) : Built (b.parse s text).1
  | read {b : Bundle} (s : Settings) (text : String) (hb : Built b) : Built (b.read s text).1
  | load {b : Bundle} (s : Settings) (path : String) (w : World) (hb : Built b) :
      Built ((b.load s path : StateM World _) w).1.1
  | append {b : Bundle} (line : Line) (hb : Built b) : Built (b.append line).1
  | appendDeferred {b : Bundle} (key line : String) (hb : Built b) : Built (b.appendDeferred key line)
  | check {b b' : Bundle} {reference : Option Bundle} {suite : Suite} (hb : Built b)
      (hreference : ∀ r ∈ reference, Built r) (hcheck : b.check reference suite = .ok b') : Built b'
  | rebuild {b b' reference : Bundle} {s : Settings} (hb : Built b) (hreference : Built reference)
      (h : b.rebuild s reference = .ok b') : Built b'
  | create {b' reference : Bundle} {s : Settings} {language : String} (hreference : Built reference)
      (h : Bundle.create s reference language = .ok b') : Built b'
  | update {b reference : Bundle} (s : Settings) (hb : Built b) (hreference : Built reference) :
      Built (b.update s reference)
  | createFrom {reference : Bundle} (s : Settings) (language : String) (hreference : Built reference) :
      Built (.createFrom s reference language)
  /-- Path, language and report are open to everyone. -/
  | annotate {b : Bundle} (file language : Option String) (report : Report) (hb : Built b) :
      Built { b with file, language, report }

/-- Checking changes the report alone. -/
theorem eq_of_check {b b' : Bundle} {reference : Option Bundle} {suite : Suite}
    (h : b.check reference suite = .ok b') : ∃ report, b' = { b with report } := by
  unfold check at h
  cases hsections : suite.sections b.content (reference.map Bundle.content) with
  | error e => simp [hsections, bind, Except.bind] at h
  | ok sections =>
    simp only [hsections, bind, Except.bind, Except.ok.injEq] at h
    exact ⟨_, h.symm⟩

theorem check_content {b b' : Bundle} {reference : Option Bundle} {suite : Suite}
    (h : b.check reference suite = .ok b') : b'.content = b.content := by
  obtain ⟨report, rfl⟩ := eq_of_check h
  rfl

theorem check_file {b b' : Bundle} {reference : Option Bundle} {suite : Suite}
    (h : b.check reference suite = .ok b') : b'.file = b.file := by
  obtain ⟨report, rfl⟩ := eq_of_check h
  rfl

theorem coherent_parse {b : Bundle} (s : Settings) (text : String) (hb : b.content.Coherent) :
    (b.parse s text).1.content.Coherent := by
  rcases parse_cases s b text with h | h
  · rw [h]
    exact hb
  · rw [h]
    exact (Reading.coherent_ofText s.deferralMarker text).content

/-- Whatever has been done to a document, its index agrees with its lines. -/
theorem Built.coherent {b : Bundle} (hb : b.Built) : b.content.Coherent := by
  induction hb with
  | empty => exact .empty
  | ofLanguage language => exact .empty
  | @parse b s text hb ih => exact coherent_parse s text ih
  | read s text hb ih => exact (Reading.coherent_ofText s.deferralMarker text).content
  | @load b s path w hb ih =>
    rcases b.load_eq_or_parse s path w with h | ⟨text, h⟩
    · rw [h]
      exact ih
    · rw [h]
      exact coherent_parse s text ih
  | @append b line hb ih =>
    cases h : b.content.append line with
    | error key => simpa [Bundle.append, h] using ih
    | ok content => simpa [Bundle.append, h] using ih.append h
  | appendDeferred key line hb ih => exact (ih.pushComment _).defer key
  | check hb hreference hcheck ih => exact check_content hcheck ▸ ih
  | rebuild hb hreference h => exact (rebuild_eq_ok_iff.1 h).2 ▸ .update _ _ _
  | create hreference h => exact (rebuild_eq_ok_iff.1 h).2 ▸ .update _ _ _
  | update s hb hreference ih => exact .update s _ _
  | createFrom s language hreference ih => exact .update s _ _
  | annotate file language report hb ih => exact ih

theorem append_eq_some_iff {b : Bundle} (hb : b.content.Coherent) {line : Line} {key : String} :
    (b.append line).2 = some ⟨key⟩ ↔ line.key? = some key ∧ key ∈ b.content.keys := by
  cases line with
  | entry e =>
    have hkey : (Line.entry e).key? = some key ↔ e.key = key := by simp [Line.key?, Line.entry?]
    rw [hkey]
    by_cases htaken : b.content.contains e.key = true
    · simp only [append, Content.append, htaken, if_true, Option.some.injEq, RepeatedKey.mk.injEq]
      exact ⟨fun h => ⟨h, h ▸ hb.contains_iff.1 htaken⟩, And.left⟩
    · simp only [append, Content.append, htaken, Bool.false_eq_true, if_false, reduceCtorEq, false_iff]
      rintro ⟨rfl, hmem⟩
      exact htaken (hb.contains_iff.2 hmem)
  | comment c => simp [append, Content.append, Line.key?, Line.entry?]
  | blank => simp [append, Content.append, Line.key?, Line.entry?]

theorem append_refused {b : Bundle} {line : Line} {key : String} (h : (b.append line).2 = some ⟨key⟩) :
    (b.append line).1 = b := by
  unfold append at h ⊢
  cases hline : b.content.append line with
  | ok content => simp [hline] at h
  | error taken => rfl

/-- Every document that the operations make has one key for each entry, one entry for each key and the
same answer from each part of its index. A line that is refused changes nothing. -/
theorem built_index_agrees {b : Bundle} (hb : b.Built) :
    b.content.keys = keysOf b.content.lines ∧ b.content.keys.Nodup ∧
      (∀ key, (b.content.contains key = true ↔ key ∈ b.content.keys) ∧
        (key ∈ b.content.keys ↔ ∃ e, b.content.entry? key = some e) ∧
        ∀ e, b.content.entry? key = some e →
          b.content.lines.filter (fun l => l.key? = some key) = [.entry e]) ∧
      b.content.deferred.Nodup ∧
      (∀ e, .entry e ∈ b.content.lines →
        e.key ≠ "" ∧ Text.trim e.key = e.key ∧ (e.separator.char = '=' ∨ e.separator.char = ':')) ∧
      (∀ c, .comment c ∈ b.content.lines →
        ∃ rest, c.text.toList = '#' :: rest ∨ c.text.toList = '!' :: rest) ∧
      ∀ line key,
        ((b.append line).2 = some ⟨key⟩ ↔ line.key? = some key ∧ key ∈ b.content.keys) ∧
          ((b.append line).2 = some ⟨key⟩ → (b.append line).1 = b) := by
  have h := hb.coherent
  refine ⟨h.keys_eq, h.keys_nodup, fun key => ⟨h.contains_iff, ?_, fun e he => ?_⟩, h.deferred_nodup,
    fun e _ => ⟨e.key_ne_empty, e.key_trimmed, ?_⟩, fun c _ => ?_,
    fun line key => ⟨append_eq_some_iff h, append_refused⟩⟩
  · rw [← h.contains_iff, h.contains_eq_isSome, Option.isSome_iff_exists]
  · obtain ⟨hmem, rfl⟩ := Content.mem_of_entry?_eq_some he
    exact Content.filter_key?_eq_singleton (h.keys_eq ▸ h.keys_nodup) hmem
  · cases e.separator with
    | equals => exact .inl rfl
    | colon => exact .inr rfl
  · exact exists_eq_cons_of_startsAsComment c.marked

theorem built_index_agrees_half_read :
    let b := (Bundle.empty.parse .standard "a = 1\n# ==> b =\na = 2\nc").1
    b.Built ∧ b.content.keys = ["a"] ∧ b.content.deferred = ["b"] ∧
      b.content.keys = keysOf b.content.lines ∧ (∃ e, b.content.entry? "a" = some e) := by
  intro b
  have hb : b.Built := .parse _ _ .empty
  have hkeys : b.content.keys = ["a"] := by decide +kernel
  have hagrees := built_index_agrees hb
  refine ⟨hb, hkeys, by decide +kernel, hagrees.1, ?_⟩
  exact ((hagrees.2.2.1 "a").2.1).1 (by simp [hkeys])

end Bundle

end BundleCheck
