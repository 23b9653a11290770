import PackageRollup.Session.Basic

/-!
# Reports

A report lists what a session has collected, in a form that is ready for printing: the use of
libraries in the order of their keywords, and everything else in ascending order of names.
-/

namespace PackageRollup

structure LibraryUsage where
  keyword : Text
  count : Int
deriving DecidableEq

structure BaseDetail where
  name : Text
  external : Bool
  subPackageCount : Int
  classCount : Int
  dependencies : List Text
  subPackages : List Text
deriving DecidableEq

structure Report where
  libraryUsage : List LibraryUsage
  externalPackages : List Text
  internalPackages : List Text
  dependencies : List (Text × List Text)
  details : List BaseDetail
  artifactPackages : List (Text × List Text)
deriving DecidableEq

/-- Put a text in front of the first one that is not below it. -/
def Text.placeInOrder (t : Text) : List Text → List Text
  | [] => [t]
  | u :: us => if u < t then u :: placeInOrder t us else t :: u :: us

/-- Sort texts, keeping repetitions. -/
def Text.sort : List Text → List Text
  | [] => []
  | t :: ts => placeInOrder t (sort ts)

namespace Report

def basePackages (r : Report) : List Text := Text.sort (r.externalPackages ++ r.internalPackages)

end Report

namespace Session

def isExternalBase (members : List Text) (packages : NameMap Bool) : Bool :=
  members.any fun name ↦ (packages.find? name).getD false

def externalFlags (s : Session) : NameMap Bool := s.packages.map PackageInfo.external

def classCount (s : Session) (package : Text) : Nat :=
  ((s.packages.find? package).map fun info ↦ info.classes.size).getD 0

/-- What there is to say of a base package with the given members, when the flags of the packages
are given. -/
def detail (s : Session) (flags : NameMap Bool) (base : Text) (members : NameSet) : BaseDetail where
  name := base
  external := isExternalBase members.toList flags
  subPackageCount := members.size
  classCount := ((members.toList.map s.classCount).foldr (· + ·) 0 : Nat)
  dependencies := (s.baseDependencies.image base).toList
  subPackages := members.toList

/-- The report on a session that is finished. -/
def summarize (s : Session) : Report :=
  let flags := s.externalFlags
  let details := s.bases.entries.map fun (base, members) ↦ s.detail flags base members
  { libraryUsage := s.libraryUsage.map fun (keyword, count) ↦ ⟨keyword, count⟩
    externalPackages := (details.filter (·.external)).map (·.name)
    internalPackages := (details.filter (!·.external)).map (·.name)
    dependencies := s.baseDependencies.toLists.filter fun e ↦ !e.2.isEmpty
    details := details
    artifactPackages := s.artifacts.toLists }

/-- The outcome of making a report: the session afterwards, the report, and the events. -/
structure Reported where
  session : Session
  report : Report
  events : List Event

/-- Make a report. The packages are grouped before, unless the session is finished. -/
def report (s : Session) : Reported :=
  let built := if s.finished then s else s.build
  let r := built.summarize
  let grouped := if s.finished then [] else [built.groupedEvent]
  ⟨built, r, grouped ++ [.reported r.externalPackages.length r.internalPackages.length]⟩

end Session

end PackageRollup
