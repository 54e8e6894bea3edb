import BundleCheck.Proofs.Run.Completion
import BundleCheck.Proofs.Terminal.Codes
import BundleCheck.Proofs.Text.Lines
import Mathlib.Logic.Function.Iterate

/-!
# What options leave of a listing

A listing is made of rows: the name of the file, the sections with their findings, and the row that sums up. Each option
of a printer does one thing to rows. Colors put codes into the text of a row, indentation puts spaces before it, and
quiet printing leaves the last row or none. So what is said of listings is said of their rows first, and a row is a line
of the listing since no text in it holds a line feed.
-/

namespace BundleCheck

/-! ### Rows -/

/-- A row of a listing: how far it is indented below the name, and its text in colors or not. -/
structure Row where
  level : Nat
  text : Bool → String

def Section.rows (s : Section) : List Row :=
  ⟨1, fun color => Style.cyan.paint color s.label⟩ :: s.findings.map fun f => ⟨2, fun color => f.listed color⟩

namespace Bundle

/-- The row that sums up. -/
def lastRow (b : Bundle) (fatal : Bool) : Row := ⟨1, fun color => Printer.summary { fatal, color } b⟩

/-- One row for the name, one for every section, one for every finding below its section, and one that sums up. -/
def rows (b : Bundle) (fatal : Bool) : List Row :=
  ⟨0, fun color => Style.bold.paint color b.name⟩ :: b.report.sections.flatMap Section.rows ++ [b.lastRow fatal]

/-- The texts that a listing takes over have one line each, and no codes. -/
structure IsInline (b : Bundle) : Prop where
  name : Text.IsInline b.name
  labels : ∀ s ∈ b.report.sections, Text.IsInline s.label
  messages : ∀ s ∈ b.report.sections, ∀ f ∈ s.findings, Text.IsInline f.message
  keys : ∀ s ∈ b.report.sections, ∀ f ∈ s.findings, ∀ key ∈ f.key, Text.IsInline key

end Bundle

variable {b : Bundle}

theorem Position.isInline_text (p : Position) : Text.IsInline p.text := by
  rw [text]
  split
  · exact Text.isInline_toString _
  · exact ((Text.isInline_toString _).append (by decide)).append (Text.isInline_toString _)

theorem Finding.isInline_text {f : Finding} (hmessage : Text.IsInline f.message)
    (hkey : ∀ key ∈ f.key, Text.IsInline key) : Text.IsInline f.text := by
  rw [text]
  refine (Text.IsInline.append ?_ ?_).append hmessage
  · split
    · rename_i position _
      exact (Text.IsInline.append (by decide) position.isInline_text).append (by decide)
    · decide
  · split
    · rename_i key hsome
      exact (Text.IsInline.append (by decide) (hkey key hsome)).append (by decide)
    · decide

theorem Finding.styled_listed {f : Finding} (h : Text.IsInline f.text) : Styled fun color => f.listed color := by
  have hname : Text.IsInline f.severity.name := by cases f.severity <;> decide
  exact ((Styled.paint _ hname).append (.const (by decide))).append (.const h)

theorem Report.styled_counts (r : Report) : Styled fun color => r.counts color := by
  have herrors : Text.IsInline (if r.errors = 1 then "error" else "errors") := by split <;> decide
  have hwarnings : Text.IsInline (if r.warnings = 1 then "warning" else "warnings") := by split <;> decide
  have hspace : Text.IsInline " " := by decide
  have hcomma : Text.IsInline ", " := by decide
  have hcounted : Styled fun _ => toString r.errors ++ " " :=
    (Styled.const (Text.isInline_toString _)).append (.const hspace)
  have hfirst := (hcounted.append (.paint .red herrors)).append (.const hcomma)
  exact ((hfirst.append (.const (Text.isInline_toString _))).append (.const hspace)).append (.paint .yellow hwarnings)

theorem Bundle.styled_lastRow (h : Text.IsInline b.name) (fatal : Bool) : Styled (b.lastRow fatal).text := by
  have hcolon : Text.IsInline ": " := by decide
  have hmark : Styled fun color => if b.report.fails fatal then Style.red.paint color failureMark
      else Style.green.paint color successMark := by
    split
    · exact .paint .red (by decide)
    · exact .paint .green (by decide)
  have houtcome : Styled fun color => if !b.report.fails fatal && b.report.isEmpty then
      Style.green.paint color "no problems found" else b.report.counts color := by
    split
    · exact .paint .green (by decide)
    · exact b.report.styled_counts
  exact (((hmark.append (.const (by decide))).append (.const h)).append (.const hcolon)).append houtcome

theorem Bundle.IsInline.styled_rows (h : b.IsInline) (fatal : Bool) : ∀ r ∈ b.rows fatal, Styled r.text := by
  have hsections : ∀ r ∈ b.report.sections.flatMap Section.rows, Styled r.text := by
    intro r hr
    obtain ⟨s, hs, hr⟩ := List.mem_flatMap.1 hr
    cases hr with
    | head => exact .paint .cyan (h.labels s hs)
    | tail _ hr =>
      obtain ⟨f, hf, rfl⟩ := List.mem_map.1 hr
      exact Finding.styled_listed (Finding.isInline_text (h.messages s hs f hf) (h.keys s hs f hf))
  intro r hr
  rw [rows, List.mem_append, List.mem_cons, List.mem_singleton] at hr
  obtain (rfl | hr) | rfl := hr
  · exact .paint .bold h.name
  · exact hsections r hr
  · exact Bundle.styled_lastRow h.name fatal

theorem Bundle.length_rows (b : Bundle) (fatal : Bool) :
    (b.rows fatal).length = 2 + b.report.sections.length + b.report.total (·.findings.length) := by
  have hsections : (b.report.sections.flatMap Section.rows).length =
      b.report.sections.length + b.report.total (·.findings.length) := by
    rw [Report.total]
    induction b.report.sections with
    | nil => rfl
    | cons s rest ih =>
      rw [List.flatMap_cons, List.length_append, ih, Section.rows, List.length_cons, List.length_map, List.length_cons,
        List.foldr_cons]
      omega
  rw [rows, List.length_append, List.length_cons, hsections, List.length_singleton]
  omega

/-! ### Indented texts -/

namespace Text

/-- The text with spaces put before every line that begins in it. -/
def indentFrom (width : Nat) (atStart : Bool) : List Char → List Char
  | [] => []
  | c :: rest => (if atStart then List.replicate width ' ' else []) ++ c :: indentFrom width (c == '\n') rest

/-- The text with spaces put before every line. -/
def indent (width : Nat) (text : List Char) : List Char := indentFrom width true text

variable {width : Nat} {line : List Char} {lines : List (List Char)}

theorem indentFrom_false_append (h : '\n' ∉ line) (rest : List Char) :
    indentFrom width false (line ++ '\n' :: rest) = line ++ '\n' :: indent width rest := by
  induction line with
  | nil => rfl
  | cons c line ih =>
    rw [List.mem_cons, not_or] at h
    have hc : (c == '\n') = false := beq_eq_false_iff_ne.2 (Ne.symm h.1)
    rw [List.cons_append, indentFrom, hc, ih h.2]
    rfl

theorem indent_append (h : '\n' ∉ line) (rest : List Char) :
    indent width (line ++ '\n' :: rest) = List.replicate width ' ' ++ line ++ '\n' :: indent width rest := by
  cases line with
  | nil => simp [indent, indentFrom]
  | cons c line =>
    rw [List.mem_cons, not_or] at h
    have hc : (c == '\n') = false := beq_eq_false_iff_ne.2 (Ne.symm h.1)
    rw [indent, List.cons_append, indentFrom, hc, indentFrom_false_append h.2]
    simp

theorem indent_flatMap (h : ∀ l ∈ lines, '\n' ∉ l) :
    indent width (lines.flatMap (· ++ ['\n'])) =
      (lines.map (List.replicate width ' ' ++ ·)).flatMap (· ++ ['\n']) := by
  induction lines with
  | nil => rfl
  | cons line lines ih =>
    obtain ⟨hline, hlines⟩ := List.forall_mem_cons.1 h
    rw [List.flatMap_cons, List.append_assoc, List.singleton_append, indent_append hline, ih hlines]
    simp

theorem pieces_flatMap (h : ∀ l ∈ lines, '\n' ∉ l) : pieces (lines.flatMap (· ++ ['\n'])) = lines := by
  induction lines with
  | nil => rfl
  | cons line lines ih =>
    obtain ⟨hline, hlines⟩ := List.forall_mem_cons.1 h
    rw [List.flatMap_cons, List.append_assoc, List.singleton_append, pieces_append_newline hline, ih hlines]

end Text

/-! ### Listings -/

theorem World.textOf_say (w : World) (p : Printer) (e : Event) (complaints : Bool) :
    textOf { w with said := w.said ++ [⟨p, e⟩] } complaints =
      w.textOf complaints ++ if e.isComplaint = complaints then e.text p else "" := by
  rw [textOf, textOf, List.filter_append, List.map_append, String.join_append]
  split
  · rename_i hstream
    simp [hstream]
  · rename_i hstream
    simp [hstream]

namespace Printer

/-- A row as the printer shows it. -/
def shown (p : Printer) (r : Row) : List Char :=
  List.replicate (2 * (p.indent + r.level)) ' ' ++ (r.text p.color).toList

/-- The rows that the printer shows. Where it is quiet the last row stands alone, and is not indented below a name. -/
def rows (p : Printer) (b : Bundle) : List Row :=
  if p.quiet then if p.fails b then [{ b.lastRow p.fatal with level := 0 }] else [] else b.rows p.fatal

variable {p : Printer}

theorem toList_line (p : Printer) (r : Row) : (p.line r.level (r.text p.color)).toList = p.shown r ++ ['\n'] := by
  simp [line, shown]

theorem toList_listSection (p : Printer) (s : Section) :
    (p.listSection s).toList = (s.rows.map p.shown).flatMap (· ++ ['\n']) := by
  have hlabel := p.toList_line ⟨1, fun color => Style.cyan.paint color s.label⟩
  have hfinding := fun f : Finding => p.toList_line ⟨2, fun color => f.listed color⟩
  simp only at hlabel hfinding
  simp [listSection, Section.rows, hlabel, hfinding, List.flatMap_map]

theorem toList_listing (p : Printer) (b : Bundle) :
    (p.listing b).toList = ((p.rows b).map p.shown).flatMap (· ++ ['\n']) := by
  have hname := p.toList_line ⟨0, fun color => Style.bold.paint color b.name⟩
  have hlast : (p.line 1 (p.summary b)).toList = p.shown (b.lastRow p.fatal) ++ ['\n'] :=
    p.toList_line (b.lastRow p.fatal)
  have halone : (p.line 0 (p.summary b)).toList = p.shown { b.lastRow p.fatal with level := 0 } ++ ['\n'] :=
    p.toList_line { b.lastRow p.fatal with level := 0 }
  simp only at hname
  rw [listing, rows]
  split
  · split
    · simp [halone]
    · simp
  · simp [Bundle.rows, hname, hlast, toList_listSection, List.flatMap_map, List.map_flatMap, List.flatMap_assoc]

theorem indented_iterate (p : Printer) (k : Nat) : indented^[k] p = { p with indent := p.indent + k } := by
  induction k with
  | zero => rfl
  | succ k ih =>
    rw [Function.iterate_succ_apply', ih]
    rfl

theorem shown_indented (p : Printer) (k : Nat) (r : Row) :
    shown { p with indent := p.indent + k } r = List.replicate (2 * k) ' ' ++ p.shown r := by
  have hwidth : 2 * (p.indent + k + r.level) = 2 * k + 2 * (p.indent + r.level) := by omega
  rw [shown, shown, hwidth, List.replicate_add, List.append_assoc]

theorem styled_rows (h : b.IsInline) (p : Printer) : ∀ r ∈ p.rows b, Styled r.text := by
  intro r hr
  rw [rows] at hr
  split at hr
  · split at hr
    · rw [List.mem_singleton.1 hr]
      exact Bundle.styled_lastRow h.name p.fatal
    · cases hr
  · exact h.styled_rows p.fatal r hr

theorem newline_notMem_shown (h : b.IsInline) (p : Printer) : ∀ l ∈ (p.rows b).map p.shown, '\n' ∉ l := by
  intro l hl
  obtain ⟨r, hr, rfl⟩ := List.mem_map.1 hl
  rw [shown, List.mem_append, not_or]
  exact ⟨by simp, (p.styled_rows h r hr).inline p.color⟩

theorem pieces_listing (h : b.IsInline) (p : Printer) :
    Text.pieces (p.listing b).toList = (p.rows b).map p.shown := by
  rw [toList_listing, Text.pieces_flatMap (p.newline_notMem_shown h)]

theorem strip_listing (h : b.IsInline) (p : Printer) :
    Style.strip ({ p with color := true }.listing b).toList = ({ p with color := false }.listing b).toList := by
  rw [toList_listing, toList_listing, List.flatMap_map, List.flatMap_map]
  refine Style.AddsCodes.strip_eq (Style.AddsCodes.flatMap fun r hr => ?_)
  have hspaces : Style.escape ∉ List.replicate (2 * (p.indent + r.level)) ' ' := by simp [Style.escape]
  have hrow := (Style.addsCodes_self hspaces).append (p.styled_rows h r hr).codes
  exact hrow.append (Style.addsCodes_self (by decide))

theorem listing_indented (h : b.IsInline) (p : Printer) (k : Nat) :
    ((indented^[k] p).listing b).toList = Text.indent (2 * k) (p.listing b).toList := by
  rw [indented_iterate, toList_listing, toList_listing, Text.indent_flatMap (p.newline_notMem_shown h), List.map_map]
  refine congrArg (List.flatMap (· ++ ['\n'])) ?_
  exact List.map_congr_left fun r _ => p.shown_indented k r

theorem listing_eq_empty_iff : p.listing b = "" ↔ p.rows b = [] := by
  rw [← String.toList_eq_nil_iff, toList_listing]
  cases p.rows b with
  | nil => simp
  | cons r others => simp

theorem listing_quiet_eq_empty_iff (p : Printer) (b : Bundle) :
    { p with quiet := true }.listing b = "" ↔ p.fails b = false := by
  rw [listing_eq_empty_iff, rows, if_pos rfl]
  cases hfails : p.fails b with
  | true => simp [show fails { p with quiet := true } b = true from hfails]
  | false => simp [show fails { p with quiet := true } b = false from hfails]

/-- What a quiet printer shows of a bundle that fails is the last line of the others, moved to the left. -/
theorem exists_last_line (h : b.IsInline) (hfails : p.fails b = true) :
    ∃ last, (Text.pieces ({ p with quiet := false }.listing b).toList).getLast? = some (' ' :: ' ' :: last) ∧
      ({ p with quiet := true }.listing b).toList = last ++ ['\n'] := by
  have hquiet : rows { p with quiet := true } b = [{ b.lastRow p.fatal with level := 0 }] := by
    rw [rows, if_pos rfl]
    exact if_pos hfails
  have hloud : rows { p with quiet := false } b = b.rows p.fatal := rfl
  refine ⟨shown p { b.lastRow p.fatal with level := 0 }, ?_, ?_⟩
  · have hshown : shown { p with quiet := false } (b.lastRow p.fatal) =
        ' ' :: ' ' :: shown p { b.lastRow p.fatal with level := 0 } := by
      have hwidth : 2 * (p.indent + 1) = 2 * p.indent + 2 := by omega
      simp [shown, Bundle.lastRow, hwidth, List.replicate_succ]
    rw [pieces_listing h, hloud, Bundle.rows, List.map_append, List.map_singleton, List.getLast?_concat, hshown]
  · rw [toList_listing, hquiet]
    simp [shown]

/-- A report puts the listing behind what was written, and is counted as the bundle is, whatever the printer. -/
theorem exists_finishes_report (b : Bundle) (t : Task) (w : World) :
    ∃ n w', Run.Finishes (t.report b) w n w' ∧ w'.output = w.output ++ t.printer.listing b ∧
      w'.complaints = w.complaints ∧ (0 < n ↔ b.report.fails t.settings.fatal = true) := by
  refine ⟨_, _, (Run.finishes_say t.printer (.report b) w).bind (Run.finishes_pure _ _), ?_, ?_, ?_⟩
  · exact w.textOf_say t.printer (.report b) false
  · rw [World.complaints, World.textOf_say]
    exact String.append_empty
  · rw [Report.fails, decide_eq_true_iff]

/-- Options have no part in whether a bundle fails, and neither in what a report of it counts for. They change what is
shown of it, each in one way. Without its codes a listing in colors is the plain one, and indentation puts spaces before
its lines. There is a line for the name, for every section, for every finding and for what sums up, and a quiet printer
shows the last of them, if the bundle fails, or nothing. -/
theorem options_change_presentation_only (b : Bundle) :
    (∀ (t : Task) (w : World), ∃ n w', Run.Finishes (t.report b) w n w' ∧
      w'.output = w.output ++ t.printer.listing b ∧ w'.complaints = w.complaints ∧
      (0 < n ↔ b.report.fails t.settings.fatal = true)) ∧
    (∀ p : Printer, p.fails b = b.report.fails p.fatal) ∧
    (b.IsInline → ∀ p : Printer,
      Style.strip ({ p with color := true }.listing b).toList = ({ p with color := false }.listing b).toList ∧
      (∀ k, ((indented^[k] p).listing b).toList = Text.indent (2 * k) (p.listing b).toList) ∧
      (p.quiet = false →
        (p.listing b).toList = ((b.rows p.fatal).map p.shown).flatMap (· ++ ['\n']) ∧
        Text.pieces (p.listing b).toList = (b.rows p.fatal).map p.shown ∧
        (Text.pieces (p.listing b).toList).length =
          2 + b.report.sections.length + b.report.total (·.findings.length)) ∧
      ({ p with quiet := true }.listing b = "" ↔ p.fails b = false) ∧
      (p.fails b = true →
        ∃ last, (Text.pieces ({ p with quiet := false }.listing b).toList).getLast? = some (' ' :: ' ' :: last) ∧
          ({ p with quiet := true }.listing b).toList = last ++ ['\n'])) := by
  refine ⟨exists_finishes_report b, fun p => rfl, fun h p => ⟨p.strip_listing h, p.listing_indented h, fun hloud => ?_,
    p.listing_quiet_eq_empty_iff b, exists_last_line h⟩⟩
  have hrows : p.rows b = b.rows p.fatal := by
    rw [rows, hloud]
    exact if_neg Bool.false_ne_true
  refine ⟨hrows ▸ p.toList_listing b, hrows ▸ p.pieces_listing h, ?_⟩
  rw [p.pieces_listing h, hrows, List.length_map, b.length_rows]

/-- A bundle that fails, with an error at a place and a warning without one. -/
theorem options_change_presentation_only_two_findings :
    let findings : List Finding :=
      [.error (some ⟨1, some 1⟩) (some "a") "No closing character for \"(\".",
        .warning none (some "c") "Missing translation."]
    let b : Bundle := { language := some "de", report := ⟨[⟨"Brackets", findings⟩]⟩ }
    let p : Printer := { color := true }
    b.IsInline ∧ p.quiet = false ∧ p.fails b = true ∧
      Style.strip (p.listing b).toList = ({ p with color := false }.listing b).toList ∧
      ((indented^[3] p).listing b).toList = Text.indent 6 (p.listing b).toList ∧
      (Text.pieces (p.listing b).toList).length = 5 ∧
      { p with color := false, quiet := true }.listing b = "✘ de: 1 error, 1 warning\n" ∧
      ∃ last, (Text.pieces (p.listing b).toList).getLast? = some (' ' :: ' ' :: last) ∧
        ({ p with quiet := true }.listing b).toList = last ++ ['\n'] := by
  intro findings b p
  have hinline : b.IsInline :=
    ⟨by decide, by decide, by decide, by decide⟩
  have hfails : p.fails b = true := by decide
  have hquiet : { p with color := false, quiet := true }.listing b = "✘ de: 1 error, 1 warning\n" := by decide +kernel
  obtain ⟨hcolor, hindent, hlines, -, hlast⟩ := (options_change_presentation_only b).2.2 hinline p
  exact ⟨hinline, rfl, hfails, hcolor, hindent 3, (hlines rfl).2.2, hquiet, hlast hfails⟩

end Printer

end BundleCheck
