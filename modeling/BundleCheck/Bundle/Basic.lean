import BundleCheck.Bundle.Reading
import BundleCheck.Check.Suite

/-!
# Bundles

A bundle is the content of a file together with what is known about it: the path that it came from, the
language that it is in, and the report on it. A reference has no language. Reading a text replaces
content and report. Checking adds to the report and changes nothing else, and updating changes the
content alone, so a report stays what was said about the file as it was read.

Reading and updating look for deferred keys, for which there has to be a pattern. `parse`, `rebuild` and
`create` are the whole operations. They fail at once if the deferral marker has no pattern, and else do
what `read`, `update` and `createFrom` do, which go by the marker alone.
-/

namespace BundleCheck

/-! ### Updating a content

The reference gives the structure. Its comments and blank lines are taken over. In the place of each
of its entries stands the translation's entry for the same key, or a comment that defers the key until
it is translated. What only the translation has is dropped. -/

namespace Content

/-- Takes up a line of an updated file. An entry whose key is taken is left out, and a comment that
defers a key records it. -/
def take (marker : String) (d : Content) (line : Line) : Content :=
  match line with
  | .entry e => if d.contains e.key then d else d.pushEntry e
  | .comment c => (d.deferAny (Deferral.ofComment? marker c)).pushComment c
  | .blank => d.pushBlank

/-- The content that some lines make up. -/
def ofLines (marker : String) (lines : List Line) : Content :=
  lines.foldl (take marker) empty

/-- The line that stands for an entry of the reference. -/
def counterpart (s : Settings) (d : Content) (e : Entry) : Line :=
  match d.entry? e.key with
  | some own => .entry own
  | none =>
    .comment (.make (s.deferralText e.key (if s.writeContent then some e.value else none)))

/-- The lines that replace one line of the reference. -/
def replacement (s : Settings) (d : Content) : Line → List Line
  | .entry e =>
    if s.writeReference then [.comment (.make (s.referenceText e.value)), d.counterpart s e]
    else [d.counterpart s e]
  | line => [line]

/-- The translation in the structure of its reference. -/
def update (s : Settings) (d reference : Content) : Content :=
  ofLines s.deferralMarker (reference.lines.flatMap (d.replacement s))

end Content

/-! ### Bundles -/

/-- Why a text cannot be read. -/
inductive ReadError where
  /-- There is no pattern for deferred entries, so nothing has been read. -/
  | pattern (fault : Pattern.Fault)
  | malformed (stop : Stop)
deriving DecidableEq, Repr

structure Bundle where
  file : Option String := none
  language : Option String := none
  report : Report := .empty
  content : Content := .empty
deriving DecidableEq

namespace Bundle

def empty : Bundle := {}

def ofLanguage (language : String) : Bundle := { language }

/-- The name under which the report is shown. -/
def name (b : Bundle) : String :=
  match b.file, b.language with
  | some file, _ => file
  | none, some language => language
  | none, none => "<reference>"

/-- What messages about lines name as their file. -/
def sourceName (b : Bundle) : String := b.file.getD "<input>"

/-- Reads the lines of a text. If one cannot be read, the content is what came before it, and the report is
empty. -/
def read (s : Settings) (b : Bundle) (text : String) : Bundle × Option Stop :=
  let (reading, stop) := Reading.ofText s.deferralMarker text
  let report :=
    match stop with
    | none => Report.empty.add reading.repeatedKeys
    | some _ => .empty
  ({ b with content := reading.content, report }, stop)

/-- Reads a text. Without a pattern for deferred entries the bundle stays as it was. -/
def parse (s : Settings) (b : Bundle) (text : String) : Bundle × Option ReadError :=
  match Deferral.pattern s.deferralMarker with
  | .error fault => (b, some (.pattern fault))
  | .ok _ =>
    let (b, stop) := b.read s text
    (b, stop.map .malformed)

/-- Adds the findings of a suite to the report. -/
def check (b : Bundle) (reference : Option Bundle) (suite : Suite) :
    Except MissingReference Bundle := do
  let sections ← suite.sections b.content (reference.map Bundle.content)
  .ok { b with report := sections.foldl Report.add b.report }

/-- Puts the content into the structure of the reference. -/
def update (s : Settings) (b reference : Bundle) : Bundle :=
  { b with content := b.content.update s reference.content }

/-- A translation in which every key of the reference is deferred. -/
def createFrom (s : Settings) (reference : Bundle) (language : String) : Bundle :=
  (ofLanguage language).update s reference

/-- Updates a bundle, if there is a pattern for deferred entries. -/
def rebuild (s : Settings) (b reference : Bundle) : Except Pattern.Fault Bundle := do
  let _ ← Deferral.pattern s.deferralMarker
  return b.update s reference

/-- Creates a translation, if there is a pattern for deferred entries. -/
def create (s : Settings) (reference : Bundle) (language : String) : Except Pattern.Fault Bundle :=
  (ofLanguage language).rebuild s reference

/-- Appends a line. If its key is taken, the bundle stays as it was and the key is the answer. -/
def append (b : Bundle) (line : Line) : Bundle × Option RepeatedKey :=
  match b.content.append line with
  | .ok content => ({ b with content }, none)
  | .error e => (b, some e)

/-- Appends a comment, and records a key as deferred. -/
def appendDeferred (b : Bundle) (key line : String) : Bundle :=
  { b with content := (b.content.pushComment (.make line)).defer key }

end Bundle

end BundleCheck
