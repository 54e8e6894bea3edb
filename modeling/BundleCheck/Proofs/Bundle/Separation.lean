import BundleCheck.Bundle.Line

/-!
# Cutting lines

What is cut off a line as its key holds no separator at which the line could have been cut. That does not
depend on the white space around the key, since white space is never escaped and escapes nothing, and so a
trimmed key that stands before a blank and a separator is cut off at that separator again. Counted in backslashes,
a line is cut at its first separator that has an even number of them before it, and not at all if there is none.
-/

namespace BundleCheck.Separation

open Unicode (isWhiteSpace)

theorem ofChar?_eq_some_iff {c : Char} {sep : Separator} : Separator.ofChar? c = some sep ↔ c = sep.char := by
  unfold Separator.ofChar?
  cases sep with
  | equals =>
    by_cases h : c = '='
    · simp [h, Separator.char]
    · by_cases h' : c = ':' <;> simp [h, h', Separator.char]
  | colon =>
    by_cases h : c = '='
    · simp [h, Separator.char]
    · by_cases h' : c = ':' <;> simp [h, h', Separator.char]

theorem exists_eq_char_iff {c : Char} : (∃ sep : Separator, c = sep.char) ↔ c = '=' ∨ c = ':' := by
  constructor
  · rintro ⟨sep, rfl⟩
    cases sep with
    | equals => exact .inl rfl
    | colon => exact .inr rfl
  · rintro (rfl | rfl)
    · exact ⟨.equals, rfl⟩
    · exact ⟨.colon, rfl⟩

theorem isSeparator_iff {c : Char} : isSeparator c = true ↔ c = '=' ∨ c = ':' := by
  rw [isSeparator, Option.isSome_iff_exists, ← exists_eq_char_iff]
  exact exists_congr fun sep => ofChar?_eq_some_iff

theorem separator_char_injective : Function.Injective Separator.char := by
  intro sep own h
  have hsep : Separator.ofChar? sep.char = some sep := ofChar?_eq_some_iff.2 rfl
  rw [h, ofChar?_eq_some_iff.2 rfl] at hsep
  exact (Option.some.inj hsep).symm

theorem boundary?_of_isWhiteSpace {c : Char} (h : isWhiteSpace c = true) (escaped : Bool) :
    boundary? escaped c = none := by
  unfold boundary?
  split
  · rfl
  · cases hsep : Separator.ofChar? c with
    | none => rfl
    | some sep =>
      rw [ofChar?_eq_some_iff.1 hsep] at h
      cases sep <;> exact absurd h (by decide)

theorem ne_backslash_of_isWhiteSpace {c : Char} (h : isWhiteSpace c = true) : (c == '\\') = false := by
  rw [beq_eq_false_iff_ne]
  rintro rfl
  exact absurd h (by decide)

/-! ### What a cut keeps -/

theorem line_of_ofRest? {escaped : Bool} {line : List Char} {s : Separation}
    (h : ofRest? escaped line = some s) : s.line = line := by
  induction line generalizing escaped s with
  | nil => cases h
  | cons c rest ih =>
    rw [ofRest?] at h
    split at h
    · rename_i sep hsep
      have hc : c = sep.char := by
        unfold boundary? at hsep
        split at hsep
        · cases hsep
        · exact ofChar?_eq_some_iff.1 hsep
      rw [← Option.some.inj h, hc]
      rfl
    · obtain ⟨t, ht, rfl⟩ := Option.map_eq_some_iff.1 h
      have hline := ih ht
      show c :: t.line = c :: rest
      rw [hline]

/-! ### Keys without a boundary -/

/-- The key of a cut could not have been cut itself. -/
theorem ofRest?_key {escaped : Bool} {line : List Char} {s : Separation}
    (h : ofRest? escaped line = some s) : ofRest? escaped s.key = none := by
  induction line generalizing escaped s with
  | nil => cases h
  | cons c rest ih =>
    rw [ofRest?] at h
    split at h
    · rw [← Option.some.inj h]
      rfl
    · rename_i hboundary
      obtain ⟨t, ht, rfl⟩ := Option.map_eq_some_iff.1 h
      show ofRest? escaped (c :: t.key) = none
      rw [ofRest?, hboundary]
      simp only [ih ht, Option.map_none]

theorem ofRest?_of_prefix_eq_none {escaped : Bool} {front line : List Char} (hfront : front <+: line)
    (h : ofRest? escaped line = none) : ofRest? escaped front = none := by
  induction front generalizing escaped line with
  | nil => rfl
  | cons c front ih =>
    obtain ⟨back, rfl⟩ := hfront
    rw [List.cons_append, ofRest?] at h
    rw [ofRest?]
    split at h
    · cases h
    · simp only [Option.map_eq_none_iff] at h ⊢
      exact ih (List.prefix_append front back) h

theorem ofRest?_dropWhile_isWhiteSpace {line : List Char} (h : ofRest? false line = none) :
    ofRest? false (line.dropWhile isWhiteSpace) = none := by
  induction line with
  | nil => rfl
  | cons c rest ih =>
    rw [List.dropWhile_cons]
    split
    · rename_i hspace
      rw [ofRest?, boundary?_of_isWhiteSpace hspace, ne_backslash_of_isWhiteSpace hspace] at h
      exact ih (Option.map_eq_none_iff.1 h)
    · exact h

theorem ofLine?_trimBoth {key : List Char} (h : ofLine? key = none) :
    ofLine? (Text.trimBoth key) = none :=
  ofRest?_of_prefix_eq_none (Text.trimEnd_prefix_self _) (ofRest?_dropWhile_isWhiteSpace h)

/-- After a key without a boundary and a blank, a line is cut at the next separator. -/
theorem ofLine?_append {key : List Char} (h : ofLine? key = none) (sep : Separator) (value : List Char) :
    ofLine? (key ++ ' ' :: sep.char :: value) = some ⟨key ++ [' '], sep, value⟩ := by
  suffices ∀ escaped, ofRest? escaped key = none →
      ofRest? escaped (key ++ ' ' :: sep.char :: value) = some ⟨key ++ [' '], sep, value⟩ from this false h
  -- Whether the first character of the key is escaped changes on the way through the key.
  clear h
  induction key with
  | nil =>
    intro escaped _
    have hblank : isWhiteSpace ' ' = true := by decide
    have hsep : boundary? false sep.char = some sep := by
      rw [boundary?, if_neg Bool.false_ne_true]
      exact ofChar?_eq_some_iff.2 rfl
    rw [List.nil_append, ofRest?, boundary?_of_isWhiteSpace hblank, ne_backslash_of_isWhiteSpace hblank,
      Bool.false_and, ofRest?, hsep]
    rfl
  | cons c key ih =>
    intro escaped h
    rw [ofRest?] at h
    split at h
    · cases h
    · rename_i hboundary
      rw [List.cons_append, ofRest?, hboundary]
      simp only
      rw [ih _ (Option.map_eq_none_iff.1 h)]
      rfl

/-! ### Where a line is cut -/

theorem boundary?_eq_some_iff {escaped : Bool} {c : Char} {sep : Separator} :
    boundary? escaped c = some sep ↔ escaped = false ∧ c = sep.char := by
  rw [boundary?]
  cases escaped with
  | true => simp
  | false => simpa using ofChar?_eq_some_iff

/-- The number of backslashes at the end of a text. -/
def backslashes (front : List Char) : Nat := (front.reverse.takeWhile (· == '\\')).length

theorem backslashes_concat (front : List Char) (c : Char) :
    backslashes (front ++ [c]) = if c = '\\' then backslashes front + 1 else 0 := by
  by_cases hc : c = '\\' <;> simp [backslashes, hc]

/-- At the start of a line nothing is escaped. -/
theorem escapes_start : false = true ↔ backslashes [] % 2 = 1 := by simp [backslashes]

/-- Behind the given start of the line stands a separator with an even number of backslashes before it. -/
def IsBoundary (line front : List Char) : Prop :=
  (∃ sep : Separator, front ++ [sep.char] <+: line) ∧ backslashes front % 2 = 0

/-- There is no boundary before this one. -/
def IsFirstBoundary (line front : List Char) : Prop :=
  IsBoundary line front ∧ ∀ other, IsBoundary line other → front.length ≤ other.length

/-- Whether the next character is escaped is told by the backslashes before it. -/
theorem escapes_iff {escaped : Bool} {before : List Char} (h : escaped = true ↔ backslashes before % 2 = 1)
    (c : Char) : (c == '\\' && !escaped) = true ↔ backslashes (before ++ [c]) % 2 = 1 := by
  rw [backslashes_concat]
  by_cases hc : c = '\\'
  · cases escaped with
    | true =>
      have hodd := h.1 rfl
      simp [hc]
      omega
    | false =>
      have heven : ¬ backslashes before % 2 = 1 := fun hodd => Bool.false_ne_true (h.2 hodd)
      simp [hc]
      omega
  · simp [hc]

/-- Nothing is cut off exactly if every separator has an odd number of backslashes before it. Some of these can
stand before the rest of the line that is looked at. -/
theorem ofRest?_eq_none_iff {escaped : Bool} {before rest : List Char}
    (hescaped : escaped = true ↔ backslashes before % 2 = 1) :
    ofRest? escaped rest = none ↔
      ∀ front, (∃ sep : Separator, front ++ [sep.char] <+: rest) → backslashes (before ++ front) % 2 = 1 := by
  induction rest generalizing before escaped with
  | nil => simp [ofRest?]
  | cons c rest ih =>
    rw [ofRest?]
    cases hboundary : boundary? escaped c with
    | some sep =>
      obtain ⟨hfree, rfl⟩ := boundary?_eq_some_iff.1 hboundary
      simp only [reduceCtorEq, false_iff]
      intro hall
      have hodd := hall [] ⟨sep, by simp⟩
      rw [List.append_nil, ← hescaped, hfree] at hodd
      cases hodd
    | none =>
      rw [Option.map_eq_none_iff, ih (escapes_iff hescaped c)]
      constructor
      · intro hall front hfront
        obtain ⟨sep, hprefix⟩ := hfront
        cases front with
        | nil =>
          obtain rfl : sep.char = c := (List.cons_prefix_cons.1 hprefix).1
          rw [List.append_nil, ← hescaped]
          cases escaped with
          | true => rfl
          | false => simp [boundary?_eq_some_iff.2 ⟨rfl, rfl⟩] at hboundary
        | cons d front =>
          obtain ⟨rfl, hrest⟩ := List.cons_prefix_cons.1 hprefix
          have hodd := hall front ⟨sep, hrest⟩
          rwa [List.append_assoc] at hodd
      · intro hall front hfront
        obtain ⟨sep, hprefix⟩ := hfront
        rw [List.append_assoc]
        exact hall (c :: front) ⟨sep, List.cons_prefix_cons.2 ⟨rfl, hprefix⟩⟩

theorem backslashes_key {escaped : Bool} {before rest : List Char} {s : Separation}
    (hescaped : escaped = true ↔ backslashes before % 2 = 1) (h : ofRest? escaped rest = some s) :
    backslashes (before ++ s.key) % 2 = 0 := by
  induction rest generalizing before escaped s with
  | nil => cases h
  | cons c rest ih =>
    rw [ofRest?] at h
    split at h
    · rename_i sep hboundary
      have hodd : ¬ backslashes before % 2 = 1 := by
        rw [← hescaped, (boundary?_eq_some_iff.1 hboundary).1]
        exact Bool.false_ne_true
      rw [← Option.some.inj h, List.append_nil]
      omega
    · obtain ⟨t, ht, rfl⟩ := Option.map_eq_some_iff.1 h
      have heven := ih (escapes_iff hescaped c) ht
      rwa [List.append_assoc] at heven

theorem ofLine?_eq_none_iff {line : List Char} : ofLine? line = none ↔ ∀ front, ¬ IsBoundary line front := by
  rw [ofLine?, ofRest?_eq_none_iff escapes_start]
  refine forall_congr' fun front => ?_
  rw [IsBoundary, not_and, List.nil_append]
  exact imp_congr_right fun _ => by omega

/-- A boundary that follows a text without one is the first. -/
theorem isFirstBoundary_of_uncut {key : List Char} (heven : backslashes key % 2 = 0) (hkey : ofLine? key = none)
    (sep : Separator) (value : List Char) : IsFirstBoundary (key ++ sep.char :: value) key := by
  refine ⟨⟨⟨sep, value, by simp⟩, heven⟩, ?_⟩
  intro other hother
  obtain ⟨⟨own, hprefix⟩, heven⟩ := hother
  -- A boundary before this one would be one of the text before it too, which has none.
  refine Nat.le_of_not_lt fun hlt => ?_
  refine ofLine?_eq_none_iff.1 hkey other ⟨⟨own, ?_⟩, heven⟩
  refine List.prefix_of_prefix_length_le hprefix (List.prefix_append _ _) ?_
  rw [List.length_append, List.length_singleton]
  omega

/-- A line is cut at its first boundary. -/
theorem isFirstBoundary_key {line : List Char} {s : Separation} (h : ofLine? line = some s) :
    IsFirstBoundary line s.key := by
  have hline : s.key ++ s.separator.char :: s.value = line := line_of_ofRest? h
  rw [← hline]
  exact isFirstBoundary_of_uncut (backslashes_key escapes_start h) (ofRest?_key h) s.separator s.value

theorem IsFirstBoundary.unique {line front other : List Char} (h : IsFirstBoundary line front)
    (hother : IsFirstBoundary line other) : front = other := by
  obtain ⟨⟨⟨sep, hprefix⟩, heven⟩, hfirst⟩ := h
  obtain ⟨⟨⟨sep', hprefix'⟩, heven'⟩, hfirst'⟩ := hother
  have hlength : front.length = other.length :=
    Nat.le_antisymm (hfirst other ⟨⟨sep', hprefix'⟩, heven'⟩) (hfirst' front ⟨⟨sep, hprefix⟩, heven⟩)
  have hfront : front <+: line := (List.prefix_append _ _).trans hprefix
  have hother : other <+: line := (List.prefix_append _ _).trans hprefix'
  exact (List.prefix_of_prefix_length_le hfront hother (Nat.le_of_eq hlength)).eq_of_length hlength

/-! ### The parts of a line -/

/-- A cut is told by its parts: the key ends with an even number of backslashes and could not be cut itself. -/
theorem ofLine?_eq_some_iff {line : List Char} {s : Separation} :
    ofLine? line = some s ↔ s.line = line ∧ backslashes s.key % 2 = 0 ∧ ofLine? s.key = none := by
  constructor
  · intro h
    exact ⟨line_of_ofRest? h, backslashes_key escapes_start h, ofRest?_key h⟩
  · rintro ⟨rfl, heven, hkey⟩
    have hfirst : IsFirstBoundary s.line s.key := isFirstBoundary_of_uncut heven hkey s.separator s.value
    cases hcut : ofLine? s.line with
    | none => exact absurd hfirst.1 (ofLine?_eq_none_iff.1 hcut _)
    | some t =>
      have hkeys : t.key = s.key := (isFirstBoundary_key hcut).unique hfirst
      have hline : t.key ++ t.separator.char :: t.value = s.key ++ s.separator.char :: s.value := line_of_ofRest? hcut
      rw [hkeys, List.append_cancel_left_eq, List.cons.injEq] at hline
      obtain ⟨hsep, hvalue⟩ := hline
      obtain ⟨key, sep, value⟩ := t
      obtain rfl : key = s.key := hkeys
      obtain rfl : sep = s.separator := separator_char_injective hsep
      obtain rfl : value = s.value := hvalue
      rfl

/-- Every separator in the text has an odd number of backslashes right before it. -/
def AllEscaped (text : List Char) : Prop :=
  ∀ front c back, text = front ++ c :: back → c = '=' ∨ c = ':' → backslashes front % 2 = 1

/-- The line is the key, the character and the value, and the character is its first separator that is not
escaped. -/
structure IsCut (line key : List Char) (c : Char) (value : List Char) : Prop where
  line_eq : line = key ++ c :: value
  isSeparator : c = '=' ∨ c = ':'
  notEscaped : backslashes key % 2 = 0
  allEscaped : AllEscaped key

theorem ofLine?_eq_none_iff_allEscaped {line : List Char} : ofLine? line = none ↔ AllEscaped line := by
  rw [ofLine?_eq_none_iff]
  constructor
  · rintro h front c back rfl hc
    obtain ⟨sep, rfl⟩ := exists_eq_char_iff.2 hc
    have hodd : ¬ backslashes front % 2 = 0 := fun heven => h front ⟨⟨sep, back, by simp⟩, heven⟩
    omega
  · rintro h front ⟨⟨sep, back, rfl⟩, heven⟩
    have hodd := h front sep.char back (by simp) (exists_eq_char_iff.1 ⟨sep, rfl⟩)
    omega

theorem isCut_iff {line key value : List Char} {sep : Separator} :
    IsCut line key sep.char value ↔ ofLine? line = some ⟨key, sep, value⟩ := by
  rw [ofLine?_eq_some_iff, ofLine?_eq_none_iff_allEscaped]
  constructor
  · rintro ⟨rfl, -, heven, hescaped⟩
    exact ⟨rfl, heven, hescaped⟩
  · rintro ⟨rfl, heven, hescaped⟩
    exact ⟨rfl, exists_eq_char_iff.1 ⟨sep, rfl⟩, heven, hescaped⟩

/-- A line is cut into a key, a separator and a value exactly where the separator is the first one with an even
number of backslashes before it. There is one such place at most, and none exactly if every separator of the line
has an odd number of them before it. -/
theorem cut_at_first_separator (line : List Char) :
    (∀ key c value,
      (ofLine? line).map (fun s => (s.key, s.separator.char, s.value)) = some (key, c, value) ↔
        IsCut line key c value) ∧
    (∀ key c value key' c' value', IsCut line key c value → IsCut line key' c' value' →
      key = key' ∧ c = c' ∧ value = value') ∧
    (ofLine? line = none ↔ AllEscaped line) := by
  have hparts : ∀ key c value,
      (ofLine? line).map (fun s => (s.key, s.separator.char, s.value)) = some (key, c, value) ↔
        IsCut line key c value := by
    intro key c value
    rw [Option.map_eq_some_iff]
    constructor
    · rintro ⟨s, hs, hparts⟩
      obtain ⟨rfl, rfl, rfl⟩ : s.key = key ∧ s.separator.char = c ∧ s.value = value := by simpa using hparts
      exact isCut_iff.2 hs
    · intro h
      obtain ⟨sep, rfl⟩ := exists_eq_char_iff.2 h.isSeparator
      exact ⟨_, isCut_iff.1 h, rfl⟩
  refine ⟨hparts, ?_, ofLine?_eq_none_iff_allEscaped⟩
  intro key c value key' c' value' h h'
  have hsame := ((hparts _ _ _).2 h).symm.trans ((hparts _ _ _).2 h')
  simpa using hsame

/-- The first separator follows one backslash and the second three, so the line is cut at the third. -/
example : ofLine? "a\\=b\\\\\\:c = d".toList = some ⟨"a\\=b\\\\\\:c ".toList, .equals, " d".toList⟩ := by decide

end BundleCheck.Separation
