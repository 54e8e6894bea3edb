import BundleCheck.Proofs.Check.Scope
import BundleCheck.Proofs.Pattern.Search

/-!
# The standard form of keys

The pattern that keys have to match unless the settings say otherwise asks for a letter, behind which there can
be more, and then the last character of it is a letter or a digit. The part that can be missing begins with as
many characters as there are, and has to give back the last of them. What the pattern means is free of that, and
so a plain key is one that can be checked by looking at its first character, its last, and each by itself.
-/

namespace BundleCheck

open Pattern (CharSet Expression)

namespace KeyFormat

/-- Whether the character can stand within a key of the standard form. -/
def isPlainChar (c : Char) : Bool := c.isAlphanum || c == '_' || c == '.'

/-- A key that begins with a letter and ends with a letter or a digit, with nothing but letters, digits, underscores
and dots in it. The letters and digits are those of ASCII. -/
def IsPlain (key : List Char) : Prop :=
  key.head?.any Char.isAlpha = true ∧ key.getLast?.any Char.isAlphanum = true ∧ ∀ c ∈ key, isPlainChar c = true

instance : DecidablePred IsPlain := fun _ => inferInstanceAs (Decidable (_ ∧ _ ∧ _))

/-! ### The standard pattern -/

/-- The letters as a set of code points. -/
def letters : CharSet := ⟨[65, 91, 97, 123], by decide⟩

def lettersAndDigits : CharSet := ⟨[48, 58, 65, 91, 97, 123], by decide⟩

def plainChars : CharSet := ⟨[46, 47, 48, 58, 65, 91, 95, 96, 97, 123], by decide⟩

/-- The last character of a key that has more than one, and those between it and the first. -/
def tailPattern : Expression := .seq (.repeated true 0 none (.one plainChars)) (.one lettersAndDigits)

def standardPattern : Expression :=
  .seq (.at .textStart) (.seq (.one letters) (.seq (.repeated true 0 (some 1) tailPattern) (.at .textEnd)))

theorem ofText_standardPattern : Expression.ofText KeyFormatOptions.standard.pattern = .ok standardPattern := by
  decide +kernel

theorem isAlpha_iff {c : Char} : c.isAlpha = true ↔
    65 ≤ c.toNat ∧ c.toNat ≤ 90 ∨ 97 ≤ c.toNat ∧ c.toNat ≤ 122 := by
  delta Char.isAlpha Char.isUpper Char.isLower
  simp only [Bool.or_eq_true, Bool.and_eq_true, decide_eq_true_iff, ge_iff_le, UInt32.le_iff_toNat_le,
    Char.toNat_val, Char.reduceToNat]

theorem isAlphanum_iff {c : Char} : c.isAlphanum = true ↔ c.isAlpha = true ∨ 48 ≤ c.toNat ∧ c.toNat ≤ 57 := by
  delta Char.isAlphanum Char.isDigit
  simp only [Bool.or_eq_true, Bool.and_eq_true, decide_eq_true_iff, ge_iff_le, UInt32.le_iff_toNat_le,
    Char.toNat_val, Char.reduceToNat]

theorem contains_letters {c : Char} : letters.contains c = true ↔ c.isAlpha = true := by
  have hranges : letters.ranges = [(65, 90), (97, 122)] := rfl
  rw [CharSet.contains_iff, hranges, isAlpha_iff]
  simp only [List.mem_cons, List.not_mem_nil, or_false, exists_eq_or_imp, exists_eq_left]

theorem contains_lettersAndDigits {c : Char} : lettersAndDigits.contains c = true ↔ c.isAlphanum = true := by
  have hranges : lettersAndDigits.ranges = [(48, 57), (65, 90), (97, 122)] := rfl
  rw [CharSet.contains_iff, hranges, isAlphanum_iff, isAlpha_iff]
  simp only [List.mem_cons, List.not_mem_nil, or_false, exists_eq_or_imp, exists_eq_left]
  omega

theorem contains_plainChars {c : Char} : plainChars.contains c = true ↔ isPlainChar c = true := by
  have hranges : plainChars.ranges = [(46, 46), (48, 57), (65, 90), (95, 95), (97, 122)] := rfl
  rw [CharSet.contains_iff, hranges, isPlainChar, Bool.or_eq_true, Bool.or_eq_true, isAlphanum_iff, isAlpha_iff]
  simp only [List.mem_cons, List.not_mem_nil, or_false, exists_eq_or_imp, exists_eq_left, beq_iff_eq,
    ← Char.toNat_inj, Char.reduceToNat]
  omega

/-! ### What the pattern means -/

theorem isPlainChar_of_isAlphanum {c : Char} (h : c.isAlphanum = true) : isPlainChar c = true := by
  rw [isPlainChar, h]
  rfl

theorem isAlphanum_of_isAlpha {c : Char} (h : c.isAlpha = true) : c.isAlphanum = true :=
  isAlphanum_iff.2 (.inl h)

/-- What is between the first character and the last one is the part that was given back to. -/
theorem matches_tailPattern_iff {before found after : List Char} : tailPattern.Matches before found after ↔
    ∃ middle last, found = middle ++ [last] ∧ (∀ c ∈ middle, isPlainChar c = true) ∧ last.isAlphanum = true := by
  have hmiddle : ∀ {before found after : List Char},
      (Expression.repeated true 0 none (.one plainChars)).Matches before found after ↔
        ∀ c ∈ found, isPlainChar c = true := by
    intro before found after
    rw [Expression.matches_repeated_iff rfl]
    simp [contains_plainChars]
  rw [tailPattern, Expression.matches_seq_iff]
  simp only [hmiddle, Expression.matches_one_iff, contains_lettersAndDigits]
  constructor
  · rintro ⟨middle, -, rfl, hall, last, hlast, rfl⟩
    exact ⟨middle, last, rfl, hall, hlast⟩
  · rintro ⟨middle, last, rfl, hall, hlast⟩
    exact ⟨middle, [last], rfl, hall, last, hlast, rfl⟩

/-- Between the two ends of a text there is a place for the whole of it only. -/
theorem occurs_standardPattern_iff_tail {key : List Char} : standardPattern.Occurs key ↔
    ∃ first rest, key = first :: rest ∧ first.isAlpha = true ∧ (rest = [] ∨ tailPattern.Matches [first] rest []) := by
  rw [standardPattern, Expression.occurs_textStart_seq_iff]
  constructor
  · rintro ⟨_, _, rfl, hbody⟩
    obtain ⟨_, rest, rfl, hletter, hrest⟩ := Expression.matches_seq_iff.1 hbody
    obtain ⟨first, hfirst, rfl⟩ := Expression.matches_one_iff.1 hletter
    obtain ⟨htail, rfl⟩ := Expression.matches_seq_textEnd_iff.1 hrest
    exact ⟨first, rest, List.append_nil _, contains_letters.1 hfirst, Expression.matches_optional_iff.1 htail⟩
  · rintro ⟨first, rest, rfl, hfirst, hrest⟩
    have hletter : (Expression.one letters).Matches [] [first] (rest ++ []) :=
      Expression.matches_one_iff.2 ⟨first, contains_letters.2 hfirst, rfl⟩
    have hend : (Expression.seq (.repeated true 0 (some 1) tailPattern) (.at .textEnd)).Matches [first] rest [] :=
      Expression.matches_seq_textEnd_iff.2 ⟨Expression.matches_optional_iff.2 hrest, rfl⟩
    exact ⟨first :: rest, [], (List.append_nil _).symm,
      Expression.matches_seq_iff.2 ⟨[first], rest, rfl, hletter, hend⟩⟩

theorem occurs_standardPattern_iff {key : List Char} : standardPattern.Occurs key ↔ IsPlain key := by
  simp only [occurs_standardPattern_iff_tail, matches_tailPattern_iff, IsPlain]
  constructor
  · rintro ⟨first, rest, rfl, hfirst, rfl | ⟨middle, last, rfl, hmiddle, hlast⟩⟩
    · have hplain := isPlainChar_of_isAlphanum (isAlphanum_of_isAlpha hfirst)
      exact ⟨hfirst, isAlphanum_of_isAlpha hfirst, List.forall_mem_singleton.2 hplain⟩
    · refine ⟨hfirst, ?_, ?_⟩
      · rw [← List.cons_append, List.getLast?_concat]
        exact hlast
      · have hfirst := isPlainChar_of_isAlphanum (isAlphanum_of_isAlpha hfirst)
        have hlast := isPlainChar_of_isAlphanum hlast
        simp only [List.mem_cons, List.mem_append, List.not_mem_nil, or_false]
        rintro c (rfl | hc | rfl)
        · exact hfirst
        · exact hmiddle c hc
        · exact hlast
  · rintro ⟨hfirst, hlast, hall⟩
    cases key with
    | nil => cases hfirst
    | cons first rest =>
      refine ⟨first, rest, rfl, hfirst, ?_⟩
      obtain rfl | ⟨middle, last, rfl⟩ := rest.eq_nil_or_concat'
      · exact .inl rfl
      · rw [← List.cons_append, List.getLast?_concat] at hlast
        refine .inr ⟨middle, last, rfl, fun c hc => hall c ?_, hlast⟩
        exact List.mem_cons_of_mem _ (List.mem_append_left _ hc)

end KeyFormat

/-! ### The findings -/

/-- The entries in their order, with the numbers of their lines. -/
def Content.numberedEntries (d : Content) : List (Nat × Entry) :=
  (d.lines.zipIdx 1).filterMap fun (line, number) => line.entry?.map (number, ·)

theorem KeyFormat.findings_eq {pattern : Expression} {p : List Char → Prop} [DecidablePred p]
    (hp : ∀ key, pattern.Occurs key ↔ p key) (written : String) (d : Content) :
    findings written pattern d =
      (d.numberedEntries.filter fun x => ¬ p x.2.key.toList).map fun x =>
        .error (some (.onLine x.1)) (some x.2.key) (message written) := by
  rw [findings, Content.inspect, Content.numberedEntries, List.filter_filterMap, List.map_filterMap,
    List.filterMap_eq_flatMap_toList]
  congr 1
  funext numbered
  obtain ⟨line, number⟩ := numbered
  cases line with
  | entry e =>
    simp only [inspectLine, Line.entry?, Option.map_some, Expression.occursIn_iff, hp]
    by_cases hkey : p e.key.toList <;> simp [Option.filter, hkey]
  | comment c => rfl
  | blank => rfl

namespace Check

open KeyFormat

/-- Whatever the options of the other checks, the standard pattern can be read, and the check built from it finds the
entries whose keys are not plain, and nothing else: one error on the line of each, in the order of the file. -/
theorem key_format_accepts_plain_keys (o : CheckOptions) :
    ∃ c, build .keyFormat { o with keyFormat := .standard } = .ok c ∧
      ∀ (d : Content) (reference : Option Content),
        c.run d reference = .ok ⟨CheckName.keyFormat.label,
          (d.numberedEntries.filter fun x => ¬ IsPlain x.2.key.toList).map fun x =>
            .error (some (.onLine x.1)) (some x.2.key) (message KeyFormatOptions.standard.pattern)⟩ := by
  refine ⟨.keyFormat KeyFormatOptions.standard.pattern standardPattern, ?_, fun d reference => ?_⟩
  · simp only [build, ofText_standardPattern]
    rfl
  · rw [← findings_eq (fun _ => occurs_standardPattern_iff)]
    rfl

end Check

end BundleCheck
