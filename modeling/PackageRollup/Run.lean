import PackageRollup.Files.Input
import PackageRollup.Report.Rendering
import PackageRollup.Settings

/-!
# Runs

A run reads records from its input, makes a report, and writes the report to a file. Nothing is
written before the whole input has been read. The file is written in its place: it is emptied first,
so what was in it is lost even if the report cannot be encoded or writing it breaks off.
-/

namespace PackageRollup

inductive Format where
  | markdown
  | json
deriving DecidableEq

def Format.ofName? (name : Text) : Option Format :=
  if name = ("markdown" : Text) then some .markdown
  else if name = ("json" : Text) then some .json
  else none

def Report.text (r : Report) : Format → Text
  | .markdown => r.markdownText
  | .json => r.jsonText

/-- Why an output cannot be written. -/
inductive OutputProblem where
  /-- A directory above it cannot be made, or it cannot be opened. -/
  | refused (fault : FileFault) (place : Path)
  /-- It was opened and emptied, and then not all of the report was written. -/
  | brokenOff (fault : FileFault)
deriving DecidableEq

inductive Failure where
  | input (e : SourceFailure)
  | stop (s : Session.Stop)
  | unknownFormat (name : Text)
  | noFormat
  | output (path : Path) (problem : OutputProblem)
  | outputPath (failure : PathFailure)
  | unencodable (run : Utf8.SurrogateRun)
deriving DecidableEq

namespace Run

/-- The report on an input, with the events on the way to it. -/
structure Analyzed where
  report : Except Failure Report
  events : List Event

def readEvent (s : Session) : Event :=
  .read s.counts.lines s.counts.records s.counts.skipped s.packages.size s.dependencies.pairCount

def analyzeSource (settings : Settings) (source : Source) : Analyzed :=
  let s := Session.start settings.libraries (NameSet.ofList settings.roots)
  let ingested := s.ingestLines source.lines
  match ingested.stop, source.failure with
  | some stop, _ => ⟨.error (.stop stop), ingested.events⟩
  | none, some failure => ⟨.error (.input failure), ingested.events⟩
  | none, none =>
    let built := ingested.session.build
    let reported := built.report
    ⟨.ok reported.report,
      ingested.events ++ [readEvent ingested.session, built.groupedEvent] ++ reported.events⟩

/-- Make the report on the input that an argument names. -/
def analyze (settings : Settings) (t : Tree) (stdin : StandardInput) (argument : Text) : Analyzed :=
  let analyzed := analyzeSource settings (Source.ofArgument t stdin argument)
  { analyzed with events := .reading argument :: analyzed.events }

def outputFailure (path : Path) : PathFailure → Failure
  | .refused fault place => .output path (.refused fault place)
  | failure => .outputPath failure

/-- The tree after writing, and why it failed, if it did. -/
structure Written where
  tree : Tree
  failure : Option Failure

/-- Write bytes to the file at a location, which a path led to. -/
def writeBytes (t : Tree) (path : Path) (location : Location) (bytes : Bytes) : Written :=
  let (t, fault) := t.fillFile location bytes
  ⟨t, fault.map fun fault ↦ .output path (.brokenOff fault)⟩

/-- Write a text to a file, making the directories above it. The file is emptied before the text is
encoded. If there is no encoding the file is closed as it is, and only that can break off. -/
def writeText (t : Tree) (path : Path) (text : Text) : Written :=
  match t.ensureDirectories path.parent with
  | ⟨t, some failure⟩ => ⟨t, some (outputFailure path failure)⟩
  | ⟨t, none⟩ =>
    match t.openFile path with
    | .error failure => ⟨t, some (outputFailure path failure)⟩
    | .ok (location, t) =>
      match Utf8.encode text with
      | .ok bytes => writeBytes t path location bytes
      | .error run =>
        let closed := writeBytes t path location []
        { closed with failure := closed.failure.or (some (.unencodable run)) }

/-- Write a report in the format with the given name. -/
def writeReport (t : Tree) (path : Path) (format : Option Text) (report : Report) : Written :=
  match format with
  | none => ⟨t, some .noFormat⟩
  | some name =>
    match Format.ofName? name with
    | none => ⟨t, some (.unknownFormat name)⟩
    | some f => writeText t path (report.text f)

/-- The outcome of a run: the tree afterwards, the events, and the path of the report or else the
failure. -/
structure Ran where
  tree : Tree
  events : List Event
  outcome : Except Failure Path

def Ran.failure (ran : Ran) : Option Failure :=
  match ran.outcome with
  | .error failure => some failure
  | .ok _ => none

def shownFormat (format : Option Text) : Text := format.getD "[]"

/-- Write the report that was made, if there is one. -/
def conclude (settings : Settings) (t : Tree) (analyzed : Analyzed) : Ran :=
  match analyzed.report with
  | .error failure => ⟨t, analyzed.events, .error failure⟩
  | .ok report =>
    let path := settings.outputPath
    let events := analyzed.events ++ [.writing (shownFormat settings.format) path.text]
    match writeReport t path settings.format report with
    | ⟨t, some failure⟩ => ⟨t, events, .error failure⟩
    | ⟨t, none⟩ => ⟨t, events ++ [.written path.text], .ok path⟩

/-- Read the input that an argument names, and write the report on it. -/
def run (settings : Settings) (t : Tree) (stdin : StandardInput) (argument : Text) : Ran :=
  conclude settings t (analyze settings t stdin argument)

end Run

def OutputProblem.message : OutputProblem → Text
  | refused fault place => (PathFailure.refused fault place).message
  | brokenOff fault => fault.message

def Failure.message : Failure → Text
  | input e => e.message
  | stop s => s.message
  | unknownFormat name => Text.quoted name
  | noFormat => "no output format"
  | output path problem => "Cannot write output '" ++ path.text ++ "': " ++ problem.message
  | outputPath failure => failure.message
  | unencodable run => run.message

end PackageRollup
