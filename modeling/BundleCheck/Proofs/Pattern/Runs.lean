import BundleCheck.Pattern.Matching
import Mathlib.Data.List.Infix

/-!
# Runs

A pattern for a run asks for one character, and behind it for as many as there are out of a set, one at least.
No place in the text has to be looked at twice for it: the match that begins at a place ends where the
characters of the set end, and what stands before the place plays no part. `Expression.IsRun.find?_cons`
says so of the search, one character at a time, without the outlooks by which the search goes.
-/

namespace BundleCheck.Pattern

/-! ### Patterns that look ahead only -/

/-- The match with one more character before it. -/
def Match.shifted (m : Match) : Match := { m with start := m.start + 1 }

namespace Expression

variable {a : Expression} {ending : List Char → Ending}

theorem find?_nil_of_endings (h : ∀ text, a.endings text = text.tails.map ending) (hnil : ending [] = none) :
    a.find? [] = none := by
  rw [find?, h]
  simp [hnil]

/-- Where an ending depends on the text behind its place alone, a search goes on as if the text began there. -/
theorem find?_cons_of_endings (h : ∀ text, a.endings text = text.tails.map ending) (c : Char) (rest : List Char) :
    a.find? (c :: rest) = match ending (c :: rest) with
      | some behind => some ⟨0, (c :: rest).take (rest.length + 1 - behind)⟩
      | none => (a.find? rest).map Match.shifted := by
  rw [find?, find?, h, h, List.tails_cons, List.map_cons, List.zipIdx_cons, List.findSome?_cons]
  cases ending (c :: rest) with
  | some behind => rfl
  | none =>
    simp only [Option.map_none]
    rw [List.zipIdx_succ, List.findSome?_map, List.map_findSome?]
    congr 1
    funext ⟨later, start⟩
    cases later with
    | none => rfl
    | some behind =>
      simp only [Function.comp_apply, Option.map_some, Match.shifted, List.drop_succ_cons, List.length_cons,
        Nat.add_sub_add_right]

end Expression

/-! ### A character and a run -/

/-- The places of a text that has the given character before it. -/
def Gap.ofTextBehind (before : Option Char) (text : List Char) : List Gap :=
  List.zipWith Gap.mk (before :: text.map some) (text.map some ++ [none])

/-- The pattern asks for a character out of `first`, and for one or more out of `others`. -/
def Expression.IsRun (first others : CharSet) (a : Expression) : Prop :=
  Outlook.ofExpression a = .seq (.one first none) (.rounds true (.one others none))

section Run

variable {first others : CharSet}

/-- Where the match ends that begins with the text. -/
def runEnding (first others : CharSet) : List Char → Ending
  | [] => none
  | c :: rest =>
    if first.contains c && rest.head?.any others.contains then some (rest.dropWhile others.contains).length
    else none

/-- The outlook when a text has been read from its end. -/
def runOutlook (first others : CharSet) (text : List Char) : Outlook :=
  let behind := (text.dropWhile others.contains).length
  .seq (.one first (if text.head?.any others.contains then some behind else none))
    (.rounds true (.one others (some behind)))

theorem advance_runOutlook (before : Option Char) (c : Char) (rest : List Char) :
    (runOutlook first others rest).advance ⟨before, some c⟩ (some (rest.length + 1)) none =
      (runEnding first others (c :: rest), runOutlook first others (c :: rest)) := by
  apply Prod.ext
  · rw [Outlook.advance_fst, runOutlook, runEnding]
    cases hhead : rest.head?.any others.contains with
    | true => cases hfirst : first.contains c <;> simp [Outlook.ending, Option.filter, hfirst]
    | false => simp [Outlook.ending]
  · cases hother : others.contains c with
    | true => simp [runOutlook, Outlook.advance, Outlook.ending, Outlook.again, hother, Option.filter]
    | false => simp [runOutlook, Outlook.advance, Outlook.ending, Outlook.again, hother]

theorem take_sub_length_dropWhile (p : Char → Bool) (text : List Char) :
    text.take (text.length - (text.dropWhile p).length) = text.takeWhile p := by
  have hsum := congrArg List.length (List.takeWhile_append_dropWhile (p := p) (l := text))
  rw [List.length_append] at hsum
  rw [List.prefix_iff_eq_take.1 (List.takeWhile_prefix p), ← hsum, Nat.add_sub_cancel]

theorem Expression.IsRun.foldr_step {a : Expression} (ha : a.IsRun first others) (before : Option Char)
    (text : List Char) :
    (Gap.ofTextBehind before text).foldr Scan.step (.start a) =
      ⟨runOutlook first others text, text.length + 1, text.tails.map (runEnding first others)⟩ := by
  induction text generalizing before with
  | nil =>
    show Scan.step ⟨before, none⟩ (.start a) = _
    rw [IsRun] at ha
    simp [Scan.step, Scan.start, ha, Outlook.advance, Outlook.ending, Outlook.again, runOutlook, runEnding]
  | cons c rest ih =>
    show Scan.step ⟨before, some c⟩ ((Gap.ofTextBehind (some c) rest).foldr Scan.step (.start a)) = _
    rw [ih, Scan.step, advance_runOutlook, List.tails_cons, List.map_cons, List.length_cons]

theorem Expression.IsRun.endings_eq {a : Expression} (ha : a.IsRun first others) (text : List Char) :
    a.endings text = text.tails.map (runEnding first others) :=
  congrArg Scan.endings (ha.foldr_step none text)

theorem Expression.IsRun.find?_nil {a : Expression} (ha : a.IsRun first others) : a.find? [] = none :=
  find?_nil_of_endings ha.endings_eq rfl

/-- The leftmost match takes the whole run. -/
theorem Expression.IsRun.find?_cons {a : Expression} (ha : a.IsRun first others) (c : Char) (rest : List Char) :
    a.find? (c :: rest) =
      if first.contains c && rest.head?.any others.contains then some ⟨0, c :: rest.takeWhile others.contains⟩
      else (a.find? rest).map Match.shifted := by
  rw [find?_cons_of_endings ha.endings_eq, runEnding]
  by_cases hstarts : (first.contains c && rest.head?.any others.contains) = true
  · rw [if_pos hstarts, if_pos hstarts, ← take_sub_length_dropWhile others.contains rest, ← List.take_succ_cons,
      ← Nat.sub_add_comm (List.dropWhile_suffix _).length_le]
  · rw [if_neg hstarts, if_neg hstarts]

/-- No character of the run is left behind what a search finds. -/
theorem Expression.IsRun.exists_after_of_find? {a : Expression} (ha : a.IsRun first others) {text : List Char}
    {m : Match} (h : a.find? text = some m) :
    ∃ before after, text = before ++ m.text ++ after ∧ m.start = before.length ∧
      ∀ c ∈ after.head?, others.contains c = false := by
  induction text generalizing m with
  | nil =>
    rw [ha.find?_nil] at h
    cases h
  | cons c rest ih =>
    rw [ha.find?_cons] at h
    split at h
    · obtain rfl := Option.some.inj h
      refine ⟨[], rest.dropWhile others.contains, ?_, rfl, ?_⟩
      · rw [List.nil_append, List.cons_append, List.takeWhile_append_dropWhile]
      · intro d hd
        have hnot := List.head?_dropWhile_not others.contains rest
        rw [Option.mem_def.1 hd] at hnot
        simpa using hnot
    · obtain ⟨m', hm', rfl⟩ := Option.map_eq_some_iff.1 h
      obtain ⟨before, after, rfl, hstart, hafter⟩ := ih hm'
      exact ⟨c :: before, after, rfl, congrArg (· + 1) hstart, hafter⟩

end Run

end BundleCheck.Pattern
