import BundleCheck.Bundle.Basic
import BundleCheck.Proofs.Check.Inspection

/-!
# Substitution rules

The rules of the settings are tried in their order, and the first that applies to a text decides what is said about
it. Rules that are added behind the others are asked only where nothing has been found before. Of the four standard
rules one is for three dots, which are found as they are; the others are for a character that is doubled, and there
the whole run of it is quoted, since the pattern takes as much as it can and nothing before the run could have
begun a match.
-/

namespace BundleCheck

open Pattern (CharSet Expression)

namespace Substitutions

variable {rules passed : List Rule} {rule : Rule} {text : List Char} {m : Pattern.Match}

/-! ### The first rule that applies -/

theorem firstMatch?_eq_none_iff : firstMatch? rules text = none ↔ ∀ rule ∈ rules, ¬ rule.pattern.Occurs text := by
  rw [firstMatch?, List.findSome?_eq_none_iff]
  simp only [Option.map_eq_none_iff, Expression.find?_eq_none_iff]

theorem firstMatch?_append (rules more : List Rule) (text : List Char) :
    firstMatch? (rules ++ more) text = (firstMatch? rules text).or (firstMatch? more text) :=
  List.findSome?_append

/-- The rule before which none applies makes the finding, whatever rules come behind it. -/
theorem exists_firstMatch? (hpassed : ∀ r ∈ passed, ¬ r.pattern.Occurs text) (hrule : rule.pattern.Occurs text)
    (later : List Rule) :
    ∃ m, rule.pattern.find? text = some m ∧ firstMatch? (passed ++ rule :: later) text = some (rule, m) := by
  cases hfind : rule.pattern.find? text with
  | none => exact absurd hrule (Expression.find?_eq_none_iff.1 hfind)
  | some m =>
    refine ⟨m, rfl, ?_⟩
    rw [firstMatch?_append, firstMatch?_eq_none_iff.2 hpassed, Option.none_or, firstMatch?, List.findSome?_cons, hfind]
    rfl

/-! ### The standard rules -/

/-- The rule for three dots. -/
def dotsRule : Rule := ⟨.repeated true 3 (some 3) (.word ['.']), "…", .suggest⟩

/-- The rule for a character that should not be doubled. -/
def doubledRule (c : Char) : Rule := ⟨.repeated true 2 none (.word [c]), c.toString, .suggest⟩

def standardRules : List Rule := dotsRule :: ['!', '?', ' '].map doubledRule

theorem mapM_ofWritten_standard : SubstitutionOptions.standard.rules.mapM Rule.ofWritten = .ok standardRules := by
  decide +kernel

/-- Three dots of a text, the first that there are. -/
structure IsFirstDots (text before after : List Char) : Prop where
  text_eq : text = before ++ ['.', '.', '.'] ++ after
  first : ∀ before' after', text = before' ++ ['.', '.', '.'] ++ after' → before.length ≤ before'.length

/-- A character in a row, twice at least, that comes neither right before the row nor right behind it. -/
structure IsRow (c : Char) (text before row after : List Char) : Prop where
  text_eq : text = before ++ row ++ after
  two_le : 2 ≤ row.length
  eq_of_mem : ∀ d ∈ row, d = c
  notMem_before : c ∉ before.getLast?
  notMem_after : c ∉ after.head?

/-- The first such row of a text. -/
structure IsFirstRow (c : Char) (text before row after : List Char) : Prop where
  isRow : IsRow c text before row after
  first : ∀ before' row' after', IsRow c text before' row' after' → before.length ≤ before'.length

theorem occurs_dotsRule_iff : dotsRule.pattern.Occurs text ↔ ['.', '.', '.'] <:+: text :=
  Expression.occurs_repeated_iff

theorem occurs_doubledRule_iff {c : Char} : (doubledRule c).pattern.Occurs text ↔ [c, c] <:+: text :=
  Expression.occurs_repeated_iff

theorem matches_dotsRule_iff {before found after : List Char} :
    dotsRule.pattern.Matches before found after ↔ found = ['.', '.', '.'] := by
  rw [dotsRule, Expression.matches_repeated_iff (Expression.reads_word_singleton '.')]
  simp only [CharSet.contains_single, Option.mem_some, forall_eq', Nat.max_self]
  constructor
  · rintro ⟨hlow, hhigh, hall⟩
    exact List.eq_replicate_iff.2 ⟨Nat.le_antisymm hhigh hlow, hall⟩
  · rintro rfl
    exact ⟨Nat.le_refl 3, Nat.le_refl 3, fun _ => List.eq_of_mem_replicate (n := 3)⟩

theorem matches_doubledRule_iff {c : Char} {before found after : List Char} :
    (doubledRule c).pattern.Matches before found after ↔ 2 ≤ found.length ∧ ∀ d ∈ found, d = c := by
  rw [doubledRule, Expression.matches_repeated_iff (Expression.reads_word_singleton c)]
  simp only [CharSet.contains_single, Option.mem_def, reduceCtorEq, false_imp_iff, implies_true, true_and]

theorem isFirstDots_of_find? (h : dotsRule.pattern.find? text = some m) :
    ∃ before after, IsFirstDots text before after ∧ m.text = ['.', '.', '.'] ∧ m.start = before.length := by
  obtain ⟨before, after, ⟨htext, hmatch, hfirst⟩, hstart⟩ := Expression.isLeftmost_of_find? h
  rw [matches_dotsRule_iff] at hmatch
  rw [hmatch] at htext
  exact ⟨before, after, ⟨htext, fun before' after' htext' => hfirst _ _ _ htext' (matches_dotsRule_iff.2 rfl)⟩,
    hmatch, hstart⟩

theorem isRun_doubledRule (c : Char) : (doubledRule c).pattern.IsRun (.single c) (.single c) := rfl

/-- A match that begins first and takes all it can is the whole row. -/
theorem isFirstRow_of_find? {c : Char} (h : (doubledRule c).pattern.find? text = some m) :
    ∃ before after, IsFirstRow c text before m.text after ∧ m.start = before.length := by
  obtain ⟨before, after, ⟨rfl, hmatch, hfirst⟩, hstart⟩ := Expression.isLeftmost_of_find? h
  obtain ⟨htwo, hall⟩ := matches_doubledRule_iff.1 hmatch
  obtain ⟨before', after', hsplit, hstart', hafter⟩ := (isRun_doubledRule c).exists_after_of_find? h
  obtain ⟨hfront, hback⟩ := List.append_inj hsplit (by
    rw [List.length_append, List.length_append, ← hstart, hstart'])
  obtain rfl := hback
  refine ⟨before, after, ⟨⟨rfl, htwo, hall, ?_, ?_⟩, ?_⟩, hstart⟩
  · -- With one more character before it the match would begin earlier.
    intro hlast
    obtain ⟨front, rfl⟩ := List.getLast?_eq_some_iff.1 hlast
    have hearlier : (doubledRule c).pattern.Matches front (c :: m.text) after :=
      matches_doubledRule_iff.2 ⟨Nat.le_succ_of_le htwo, List.forall_mem_cons.2 ⟨rfl, hall⟩⟩
    have hle := hfirst front (c :: m.text) after (by simp) hearlier
    rw [List.length_append] at hle
    exact Nat.not_succ_le_self _ hle
  · intro hhead
    have hnot := hafter c hhead
    rw [CharSet.contains_single.2 rfl] at hnot
    cases hnot
  · intro before' row' after' hrow
    exact hfirst before' row' after' hrow.text_eq (matches_doubledRule_iff.2 ⟨hrow.two_le, hrow.eq_of_mem⟩)

/-! ### What is said about a text -/

/-- What is said about the text of a line. -/
def said (rules : List Rule) (text : List Char) (number : Nat) (key : Option String) : List Finding :=
  (firstMatch? rules text).toList.map fun (rule, m) => finding rule m number key

/-- Nothing is found if no pattern occurs in the text, and otherwise there is one finding, by the first of the rules
whose patterns do, about the first match. -/
structure IsDecided (rules : List Rule) (text : List Char) (number : Nat) (key : Option String)
    (found : List Finding) : Prop where
  eq_nil_iff : found = [] ↔ ∀ rule ∈ rules, ¬ rule.pattern.Occurs text
  of_first : ∀ passed rule later, rules = passed ++ rule :: later → (∀ r ∈ passed, ¬ r.pattern.Occurs text) →
    rule.pattern.Occurs text → ∃ before m after, rule.pattern.find? text = some m ∧
      rule.pattern.IsLeftmost text before m.text after ∧ m.start = before.length ∧
      found = [finding rule m number key]

/-- Three dots come first, and then a row of exclamation marks, of question marks or of blanks. -/
structure IsStandard (text : List Char) (number : Nat) (key : Option String) (found : List Finding) : Prop where
  eq_nil_iff : found = [] ↔ ¬ ['.', '.', '.'] <:+: text ∧ ∀ c ∈ ['!', '?', ' '], ¬ [c, c] <:+: text
  of_dots : ['.', '.', '.'] <:+: text → ∃ before after, IsFirstDots text before after ∧
    found = [.warning (some (.atColumn number (before.length + 1))) key (suggestion "..." "…")]
  of_row : ∀ passed c later, ['!', '?', ' '] = passed ++ c :: later → ¬ ['.', '.', '.'] <:+: text →
    (∀ d ∈ passed, ¬ [d, d] <:+: text) → [c, c] <:+: text → ∃ before row after, IsFirstRow c text before row after ∧
      found = [.warning (some (.atColumn number (before.length + 1))) key
        (suggestion (String.ofList row) c.toString)]

variable {number : Nat} {key : Option String} {found : List Finding}

theorem isDecided_said (rules : List Rule) (text : List Char) (number : Nat) (key : Option String) :
    IsDecided rules text number key (said rules text number key) := by
  refine ⟨?_, ?_⟩
  · rw [said, List.map_eq_nil_iff, Option.toList_eq_nil_iff, firstMatch?_eq_none_iff]
  · rintro passed rule later rfl hpassed hrule
    obtain ⟨m, hfind, hfirst⟩ := exists_firstMatch? hpassed hrule later
    obtain ⟨before, after, hleft, hstart⟩ := Expression.isLeftmost_of_find? hfind
    refine ⟨before, m, after, hfind, hleft, hstart, ?_⟩
    rw [said, hfirst]
    rfl

theorem finding_dotsRule {before : List Char} (htext : m.text = ['.', '.', '.']) (hstart : m.start = before.length)
    (number : Nat) (key : Option String) : finding dotsRule m number key =
      .warning (some (.atColumn number (before.length + 1))) key (suggestion "..." "…") := by
  rw [← hstart]
  show Finding.warning _ _ (suggestion (String.ofList m.text) "…") = _
  rw [htext]

theorem finding_doubledRule {before : List Char} (hstart : m.start = before.length) (c : Char) (number : Nat)
    (key : Option String) : finding (doubledRule c) m number key =
      .warning (some (.atColumn number (before.length + 1))) key (suggestion (String.ofList m.text) c.toString) := by
  rw [← hstart]
  rfl

theorem IsDecided.isStandard (h : IsDecided standardRules text number key found) :
    IsStandard text number key found := by
  refine ⟨?_, fun hdots => ?_, ?_⟩
  · rw [h.eq_nil_iff]
    simp only [standardRules, List.forall_mem_cons, List.forall_mem_map, occurs_dotsRule_iff, occurs_doubledRule_iff]
  · obtain ⟨_, m, _, hfind, -, -, rfl⟩ := h.of_first [] dotsRule _ rfl nofun (occurs_dotsRule_iff.2 hdots)
    obtain ⟨before, after, hfirst, htext, hstart⟩ := isFirstDots_of_find? hfind
    exact ⟨before, after, hfirst, by rw [finding_dotsRule htext hstart]⟩
  · intro passed c later hrow hdots hpassed hoccurs
    have hrules : standardRules = dotsRule :: passed.map doubledRule ++ doubledRule c :: later.map doubledRule := by
      rw [standardRules, hrow, List.map_append]
      rfl
    have hnone : ∀ r ∈ dotsRule :: passed.map doubledRule, ¬ r.pattern.Occurs text := by
      simpa only [List.forall_mem_cons, List.forall_mem_map, occurs_dotsRule_iff, occurs_doubledRule_iff]
        using ⟨hdots, hpassed⟩
    obtain ⟨_, m, _, hfind, -, -, rfl⟩ := h.of_first _ _ _ hrules hnone (occurs_doubledRule_iff.2 hoccurs)
    obtain ⟨before, after, hfirst, hstart⟩ := isFirstRow_of_find? hfind
    exact ⟨before, m.text, after, hfirst, by rw [finding_doubledRule hstart]⟩

/-- Rules that come behind the others say something only where these have nothing to say. -/
theorem said_append (rules more : List Rule) (text : List Char) (number : Nat) (key : Option String) :
    said rules text number key = [] ∨ said (rules ++ more) text number key = said rules text number key := by
  rw [said, said, firstMatch?_append]
  cases firstMatch? rules text with
  | none => exact .inl rfl
  | some place => exact .inr rfl

/-! ### Findings of a file -/

theorem inspectLine_of_inspected {comments : Bool} {line : Line} {value : String}
    (hvalue : line.inspected? comments = some value) :
    inspectLine rules comments number line = said rules value.toList number line.key? := by
  rw [inspectLine, hvalue, said]

theorem filter_findings {comments : Bool} {d : Content} {line : Line} {value : String}
    (hline : d.line? number = some line) (hvalue : line.inspected? comments = some value) :
    (findings rules comments d).filter (fun x => x.line? = some number) =
      said rules value.toList number line.key? := by
  rw [findings, Content.filter_inspect (inspects rules comments).pointing, hline, Option.elim_some,
    inspectLine_of_inspected hvalue]

/-- A line keeps what has been found on it. -/
theorem inspectLine_append (rules more : List Rule) (comments : Bool) (number : Nat) (line : Line) :
    inspectLine rules comments number line = [] ∨
      inspectLine (rules ++ more) comments number line = inspectLine rules comments number line := by
  cases hvalue : line.inspected? comments with
  | none =>
    rw [inspectLine, hvalue]
    exact .inl rfl
  | some value =>
    rw [inspectLine_of_inspected hvalue, inspectLine_of_inspected hvalue]
    exact said_append rules more value.toList number line.key?

theorem findings_sublist_append (rules more : List Rule) (comments : Bool) (d : Content) :
    (findings rules comments d).Sublist (findings (rules ++ more) comments d) := by
  rw [findings, findings, Content.inspect, Content.inspect]
  induction d.lines.zipIdx 1 with
  | nil => exact .refl _
  | cons p rest ih =>
    obtain ⟨line, number⟩ := p
    have hline : (inspectLine rules comments number line).Sublist
        (inspectLine (rules ++ more) comments number line) := by
      rcases inspectLine_append rules more comments number line with hnone | hsame
      · rw [hnone]
        exact List.nil_sublist _
      · rw [hsame]
    exact hline.append ih

theorem filter_findings_append {comments : Bool} {d : Content}
    (h : (findings rules comments d).filter (fun x => x.line? = some number) ≠ []) (more : List Rule) :
    (findings (rules ++ more) comments d).filter (fun x => x.line? = some number) =
      (findings rules comments d).filter fun x => x.line? = some number := by
  rw [findings, Content.filter_inspect (inspects _ _).pointing] at h ⊢
  rw [findings, Content.filter_inspect (inspects _ _).pointing]
  cases hline : d.line? number with
  | none => rfl
  | some line =>
    rw [hline] at h
    exact (inspectLine_append rules more comments number line).resolve_left h

end Substitutions

namespace Check

open Substitutions

/-- The check that is built from written rules. -/
theorem build_substitutions {written : List SubstitutionRule} {rules : List Rule}
    (hrules : written.mapM Rule.ofWritten = .ok rules) (o : CheckOptions) (comments : Bool) :
    build .substitutions { o with substitutions := ⟨written, comments⟩ } = .ok (substitutions rules comments) := by
  simp only [build, hrules]
  rfl

/-- On each line that is inspected, and on no other, the first of the rules that applies decides. Rules that are put
behind the others change nothing where something has been found, and take nothing away. From settings whose rules can
be read the check with these rules is built. Those of the standard settings can be read, and they find three dots in a
row and the whole of a row of two marks or blanks. -/
theorem first_rule_decides (comments : Bool) (d : Content) (reference : Option Content) :
    (∀ rules : List Rule, ∃ found,
      (substitutions rules comments).run d reference = .ok ⟨CheckName.substitutions.label, found⟩ ∧
      (∀ x ∈ found, ∃ number line value, d.line? number = some line ∧ line.inspected? comments = some value ∧
        x.line? = some number) ∧
      (∀ number line value, d.line? number = some line → line.inspected? comments = some value →
        IsDecided rules value.toList number line.key? (found.filter fun x => x.line? = some number)) ∧
      ∀ more : List Rule, ∃ found',
        (substitutions (rules ++ more) comments).run d reference = .ok ⟨CheckName.substitutions.label, found'⟩ ∧
        found.Sublist found' ∧
        ∀ number, found.filter (fun x => x.line? = some number) ≠ [] →
          found'.filter (fun x => x.line? = some number) = found.filter fun x => x.line? = some number) ∧
    (∀ (o : CheckOptions) (written : List SubstitutionRule) (rules : List Rule),
      written.mapM Rule.ofWritten = .ok rules →
      build .substitutions { o with substitutions := ⟨written, comments⟩ } = .ok (substitutions rules comments)) ∧
    ∀ o : CheckOptions, ∃ c found,
      build .substitutions { o with substitutions := { SubstitutionOptions.standard with comments } } = .ok c ∧
      c.run d reference = .ok ⟨CheckName.substitutions.label, found⟩ ∧
      (∀ x ∈ found, ∃ number line value, d.line? number = some line ∧ line.inspected? comments = some value ∧
        x.line? = some number) ∧
      ∀ number line value, d.line? number = some line → line.inspected? comments = some value →
        IsStandard value.toList number line.key? (found.filter fun x => x.line? = some number) := by
  have hplaces : ∀ rules : List Rule, ∀ x ∈ findings rules comments d, ∃ number line value,
      d.line? number = some line ∧ line.inspected? comments = some value ∧ x.line? = some number :=
    fun rules x hx => (inspects rules comments).exists_inspected hx
  have hdecided : ∀ (rules : List Rule) (number : Nat) (line : Line) (value : String), d.line? number = some line →
      line.inspected? comments = some value → IsDecided rules value.toList number line.key?
        ((findings rules comments d).filter fun x => x.line? = some number) := by
    intro rules number line value hline hvalue
    rw [filter_findings hline hvalue]
    exact isDecided_said rules value.toList number line.key?
  refine ⟨fun rules => ?_, fun o written rules hrules => build_substitutions hrules o comments, fun o => ?_⟩
  · refine ⟨findings rules comments d, rfl, hplaces rules, hdecided rules, fun more => ?_⟩
    exact ⟨findings (rules ++ more) comments d, rfl, findings_sublist_append rules more comments d,
      fun number hfound => filter_findings_append hfound more⟩
  · refine ⟨_, findings standardRules comments d, build_substitutions mapM_ofWritten_standard o comments, rfl,
      hplaces standardRules, fun number line value hline hvalue => ?_⟩
    exact (hdecided standardRules number line value hline hvalue).isStandard

/-- The second rule would apply further to the front, and the third finds something in the comment only. -/
theorem first_rule_decides_three_rules :
    let value := "éa bb!!! ??"
    let d := (Bundle.empty.read .standard ("k = " ++ value ++ "\n# c")).1.content
    let bs : Rule := ⟨.repeated true 1 none (.word ['b']), "", .fail⟩
    let a : Rule := ⟨.word ['a'], "o", .suggest⟩
    let c : Rule := ⟨.word ['c'], "k", .suggest⟩
    let onFirst : Finding := .error (some (.atColumn 1 4)) (some "k") "Found \"bb\"."
    let onSecond : Finding := .warning (some (.atColumn 2 3)) none "\"c\" could be replaced with \"k\"."
    ([⟨"b+", "", .fail⟩, ⟨"a", "o", .suggest⟩] : List SubstitutionRule).mapM Rule.ofWritten = .ok [bs, a] ∧
    build .substitutions { substitutions := ⟨[⟨"b+", "", .fail⟩, ⟨"a", "o", .suggest⟩], true⟩ } =
      .ok (substitutions [bs, a] true) ∧
    (substitutions [bs, a] true).run d none = .ok ⟨"Substitutions", [onFirst]⟩ ∧
    (substitutions ([bs, a] ++ [c]) true).run d none = .ok ⟨"Substitutions", [onFirst, onSecond]⟩ ∧
    [onFirst].Sublist [onFirst, onSecond] ∧ IsDecided [bs, a] value.toList 1 (some "k") [onFirst] ∧
    IsStandard value.toList 1 (some "k")
      [.warning (some (.atColumn 1 6)) (some "k") "\"!!!\" could be replaced with \"!\"."] := by
  intro value d bs a c onFirst onSecond
  let e : Entry := ⟨"k", .equals, value, by decide +kernel, by decide⟩
  have hline : d.line? 1 = some (.entry e) := by decide +kernel
  have hread : ([⟨"b+", "", .fail⟩, ⟨"a", "o", .suggest⟩] : List SubstitutionRule).mapM Rule.ofWritten =
      .ok [bs, a] := by decide +kernel
  have hanswer : ∀ {c : Check} {found expected : List Finding},
      c.run d none = .ok ⟨CheckName.substitutions.label, found⟩ →
      (c.run d none).toOption = some ⟨CheckName.substitutions.label, expected⟩ → found = expected := by
    intro c found expected hrun hexpected
    rw [hrun] at hexpected
    exact congrArg Section.findings (Option.some.inj hexpected)
  obtain ⟨hrules, hbuild, hstandard⟩ := first_rule_decides true d none
  obtain ⟨found, hfound, -, hdecided, hmore⟩ := hrules [bs, a]
  obtain ⟨found', hfound', hsublist, -⟩ := hmore [c]
  obtain ⟨standard, marks, hstandard, hmarks, -, hmarked⟩ := hstandard {}
  obtain rfl : found = [onFirst] := hanswer hfound (by decide +kernel)
  obtain rfl : found' = [onFirst, onSecond] := hanswer hfound' (by decide +kernel)
  have hrow : marks = [.warning (some (.atColumn 1 6)) (some "k") "\"!!!\" could be replaced with \"!\"."] := by
    obtain rfl : standard = substitutions standardRules true :=
      Except.ok.inj (hstandard.symm.trans (build_substitutions mapM_ofWritten_standard {} true))
    exact hanswer hmarks (by decide +kernel)
  have hdecided := hdecided 1 _ value hline rfl
  have hmarked := hmarked 1 _ value hline rfl
  rw [hrow] at hmarked
  exact ⟨hread, hbuild {} _ _ hread, hfound, hfound', hsublist, hdecided, hmarked⟩

end Check

end BundleCheck
