import PackageRollup.BasePackage
import PackageRollup.ClassName
import PackageRollup.Event
import PackageRollup.Name.List

/-!
# Sessions

A session collects packages, the dependencies between them, the packages of every artifact, and the
classes that match the configured library keywords. Records are ingested until the packages are
grouped; from then on a session is finished and takes no more records.
-/

namespace PackageRollup

/-- What is known of a package: its name, the simple names of its classes, and whether it was
external when it was first seen. -/
structure PackageInfo where
  name : Text
  classes : NameSet
  external : Bool
deriving DecidableEq

structure Counts where
  lines : Nat
  records : Nat
  skipped : Nat
deriving DecidableEq

/-- The base packages with their members, and the dependencies between them. -/
structure Grouping where
  bases : NameRelation
  dependencies : NameRelation

structure Session where
  /-- The packages under these roots have base packages of two segments. -/
  roots : NameSet
  packages : NameMap PackageInfo
  dependencies : NameRelation
  artifacts : NameRelation
  /-- The library keywords in order, each with the target classes that matched it. -/
  matched : List (Text × NameSet)
  counts : Counts
  /-- The result of grouping, once the session is finished. -/
  grouping : Option Grouping

namespace Session

/-- The library keywords to count, unless configured otherwise. -/
def defaultLibraries : List Text := ["struts", "commons", "log4j", "cryptix"]

/-- A session before its first record. -/
def start (libraries : List Text) (roots : NameSet) : Session where
  roots := roots
  packages := .empty
  dependencies := .empty
  artifacts := .empty
  matched := (NameList.normalize libraries).map fun keyword ↦ (keyword, .empty)
  counts := ⟨0, 0, 0⟩
  grouping := none

def libraries (s : Session) : List Text := s.matched.map Prod.fst

/-- Whether the packages have been grouped. -/
def finished (s : Session) : Bool := s.grouping.isSome

/-- The base packages with their members; none before the packages are grouped. -/
def bases (s : Session) : NameRelation := s.grouping.elim .empty Grouping.bases

/-- The dependencies between base packages; none before the packages are grouped. -/
def baseDependencies (s : Session) : NameRelation := s.grouping.elim .empty Grouping.dependencies

/-- Register a class in a package. The package keeps the flag of its first registration. -/
def addPackage (s : Session) (name simple : Text) (external : Bool) : Session :=
  { s with packages := s.packages.update name fun
      | some info => { info with classes := info.classes.insert simple }
      | none => ⟨name, NameSet.empty.insert simple, external⟩ }

/-- Count a target class for every keyword that occurs in it, whatever its case. -/
def countLibraries (s : Session) (target : Text) : Session :=
  let lowered := Text.lower target
  { s with matched := s.matched.map fun (keyword, classes) ↦
      (keyword, if Text.occursIn keyword lowered then classes.insert target else classes) }

/-- Register the dependency of a package on another one. A package does not depend on itself. -/
def addDependency (s : Session) (source target : Text) : Session :=
  if source = target then s else { s with dependencies := s.dependencies.add source target }

def addToArtifact (s : Session) (artifact package : Text) : Session :=
  { s with artifacts := s.artifacts.add artifact package }

def countRecord (s : Session) : Session :=
  { s with counts := { s.counts with records := s.counts.records + 1 } }

/-- Whether the target of a record lies outside the artifact: its class, as it is written, does not
begin with the group of the artifact. -/
def isExternalTarget (r : Record) : Bool := !r.artifactGroup.isPrefixOf r.targetClass

/-- What a record adds to a session. -/
def absorb (s : Session) (r : Record) : Session :=
  let source := ClassName.ofText r.sourceClass
  let target := ClassName.ofText r.targetClass
  ((((((s.countRecord.addPackage source.package source.simple false).addPackage
    target.package target.simple (isExternalTarget r)).addDependency
    source.package target.package).addToArtifact r.artifactId source.package).addToArtifact
    r.artifactId target.package).countLibraries r.targetClass)

inductive Stop where
  | finished
  | limit (l : Json.Limit)
deriving DecidableEq

/-- Ingest one record, unless the session is finished. -/
def ingest (s : Session) (r : Record) : Except Stop Session :=
  if s.finished then .error .finished else .ok (s.absorb r)

def countLine (s : Session) : Session :=
  { s with counts := { s.counts with lines := s.counts.lines + 1 } }

def countSkipped (s : Session) : Session :=
  { s with counts := { s.counts with skipped := s.counts.skipped + 1 } }

/-- The outcome of ingesting lines: the session afterwards, the events, and why it stopped early, if
it did. -/
structure Ingested where
  session : Session
  events : List Event
  stop : Option Stop

/-- Ingest lines, the first of which has the given number. Blank lines are counted and nothing else;
lines that are not records are skipped with a warning. -/
def ingestFrom (number : Nat) (s : Session) : List Text → Ingested
  | [] => ⟨s, [], none⟩
  | line :: lines =>
    let s := s.countLine
    if Text.isBlankText line then ingestFrom (number + 1) s lines
    else match Record.decode line (some number) with
      | .error (.limit l) => ⟨s, [], some (.limit l)⟩
      | .error (.rejected r) =>
        let rest := ingestFrom (number + 1) s.countSkipped lines
        { rest with events := .skipped r :: rest.events }
      | .ok record =>
        match s.ingest record with
        | .error stop => ⟨s, [], some stop⟩
        | .ok s => ingestFrom (number + 1) s lines

/-- Ingest lines, which are numbered from one. -/
def ingestLines (s : Session) (lines : List Text) : Ingested := ingestFrom 1 s lines

/-- The number of classes that matched each keyword, in the order of the keywords. -/
def libraryUsage (s : Session) : List (Text × Nat) := s.matched.map fun (k, cs) ↦ (k, cs.size)

/-- Group packages into base packages, and roll their dependencies up. -/
def groupPackages (s : Session) : Grouping :=
  let bases := BasePackage.group s.roots s.packages.keys
  ⟨bases, BasePackage.rollUp s.dependencies.toLists bases.toLists⟩

/-- Group the packages. The session is finished afterwards; it may be grouped again. -/
def build (s : Session) : Session := { s with grouping := some s.groupPackages }

def groupedEvent (s : Session) : Event :=
  .grouped s.bases.size s.packages.size s.baseDependencies.pairCount

def Stop.message : Stop → Text
  | finished => "cannot ingest after base packages were built"
  | limit l => l.message

end Session

end PackageRollup
