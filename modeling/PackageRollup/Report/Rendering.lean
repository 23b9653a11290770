import PackageRollup.Json.Basic
import PackageRollup.Report.Basic

/-!
# Reports as JSON and as Markdown

As JSON a report is one object, indented by two spaces. Names are kept as they are; the list of all
base packages is added at the end.

The Markdown document is a template with places for four sections. Names are written between
backticks, as they are. A section without content is left out or says that there is nothing. A
template is a text with places to be filled: a dollar with a name behind it, which may stand in
braces. Two dollars stand for one. Filling a template goes over it once, from left to right; what
has been put in is not looked at again, and a place without a value stays as it is written.
-/

namespace PackageRollup

namespace Template

/-- The code points that a name begins with: the letters of ASCII and the low line. -/
def beginsName (c : CodePoint) : Bool :=
  65 ≤ c.val && c.val < 91 || 97 ≤ c.val && c.val < 123 || c.val == 95

def continuesName (c : CodePoint) : Bool := beginsName c || c.isDigit

/-- The longest name at the head of a text, empty if there is none. -/
def nameAtHead : Text → Text
  | [] => []
  | c :: t => if beginsName c then c :: t.takeWhile continuesName else []

/-- What a dollar stands for with the text behind it, and how much of that text belongs to it. -/
def atDollar (value? : Text → Option Text) : Text → Text × Nat
  | [] => ("$", 0)
  | c :: t =>
    if c = '$' then ("$", 1)
    else if c = '{' then
      let name := nameAtHead t
      if name ≠ [] ∧ (t.drop name.length).head? = some (CodePoint.ofChar '}') then
        ((value? name).getD ("$\x7b" ++ name ++ "\x7d"), name.length + 2)
      else ("$", 0)
    else
      let name := nameAtHead (c :: t)
      if name = [] then ("$", 0) else ((value? name).getD ("$" ++ name), name.length)

/-- Fill a template from behind the given number of code points on. -/
def fillBehind (value? : Text → Option Text) : Nat → Text → Text
  | _, [] => []
  | passed + 1, _ :: t => fillBehind value? passed t
  | 0, c :: t =>
    if c = '$' then
      (atDollar value? t).1 ++ fillBehind value? (atDollar value? t).2 t
    else c :: fillBehind value? 0 t

def fill (value? : Text → Option Text) (template : Text) : Text := fillBehind value? 0 template

/-- A place for the value of a name. -/
def place (name : Text) : Text := "$\x7b" ++ name ++ "\x7d"

end Template

namespace Report

/-! ### JSON -/

def namesToJson (names : List Text) : Json := .arr (names.map .str)

def entriesToJson (es : List (Text × List Text)) : Json :=
  .obj (es.map fun (name, names) ↦ (name, namesToJson names))

def usageToJson (u : LibraryUsage) : Json :=
  .obj [("keyword", .str u.keyword), ("count", .int u.count)]

def detailToJson (d : BaseDetail) : Json := .obj [
  ("name", .str d.name), ("is_external", .bool d.external),
  ("sub_package_count", .int d.subPackageCount), ("class_count", .int d.classCount),
  ("dependencies", namesToJson d.dependencies), ("sub_packages", namesToJson d.subPackages)]

def toJson (r : Report) : Json := .obj [
  ("library_usage", .arr (r.libraryUsage.map usageToJson)),
  ("external_packages", namesToJson r.externalPackages),
  ("internal_packages", namesToJson r.internalPackages),
  ("dependencies", entriesToJson r.dependencies),
  ("details", .arr (r.details.map detailToJson)),
  ("artifact_packages", entriesToJson r.artifactPackages),
  ("base_packages", namesToJson r.basePackages)]

def jsonText (r : Report) : Text := Json.print .block r.toJson ++ "\n"

/-! ### Markdown -/

def code (name : Text) : Text := "`" ++ name ++ "`"

/-- A name on a line of its own. -/
def bullet (indent name : Text) : Text := indent ++ "- " ++ code name ++ "\n"

def bullets (indent : Text) (names : List Text) : Text := names.flatMap (bullet indent)

def usageRow (u : LibraryUsage) : Text :=
  "| " ++ code u.keyword ++ " | " ++ Text.ofInt u.count ++ " |\n"

def librarySection (usage : List LibraryUsage) : Text :=
  if usage.isEmpty then []
  else "## Library Usage\n\n| Library | Classes |\n| --- | --- |\n"
    ++ usage.flatMap usageRow ++ "\n"

/-- A heading with a list of names, unless the list is empty. -/
def namesUnder (heading : Text) (names : List Text) : Text :=
  if names.isEmpty then [] else heading ++ "\n\n" ++ bullets [] names ++ "\n"

def packagesSection (external inner : List Text) : Text :=
  namesUnder "### External Dependencies" external ++ namesUnder "### Internal Packages" inner

/-- A base package with the base packages that it depends on. -/
def relationship (e : Text × List Text) : Text :=
  "- " ++ code e.1 ++ " depends on:\n" ++ bullets "  " e.2 ++ "\n"

def relationshipsSection (dependencies : List (Text × List Text)) : Text :=
  if dependencies.isEmpty then "*No dependencies between base packages found.*\n\n"
  else dependencies.flatMap relationship

def detailBlock (d : BaseDetail) : Text :=
  let kind : Text := if d.external then "External Dependency" else "Internal Package"
  let dependencies : Text :=
    if d.dependencies.isEmpty then "None" else Text.join ", " (d.dependencies.map code)
  "### " ++ code d.name ++ "\n\n- **Type**: " ++ kind
    ++ "\n- **Sub-packages**: " ++ Text.ofInt d.subPackageCount
    ++ "\n- **Classes**: " ++ Text.ofInt d.classCount
    ++ "\n- **Dependencies**: " ++ dependencies ++ "\n\n"
    ++ namesUnder "Includes these sub-packages:" d.subPackages

def template : Text :=
  "# Project Package Dependencies\n\n"
    ++ "This document lists all base packages that the project depends on.\n\n"
    ++ Template.place "LIBRARY_USAGE"
    ++ "## Base Packages\n\n" ++ Template.place "BASE_PACKAGES"
    ++ "## Dependency Relationships\n\n" ++ Template.place "RELATIONSHIPS"
    ++ "## Package Details\n\n" ++ Template.place "DETAILS" ++ "\n"

/-- The section that is put at a place of the template. -/
def sectionAt? (r : Report) (name : Text) : Option Text :=
  if name = "LIBRARY_USAGE" then some (librarySection r.libraryUsage)
  else if name = "BASE_PACKAGES" then some (packagesSection r.externalPackages r.internalPackages)
  else if name = "RELATIONSHIPS" then some (relationshipsSection r.dependencies)
  else if name = "DETAILS" then some (r.details.flatMap detailBlock)
  else none

def markdownText (r : Report) : Text := Template.fill r.sectionAt? template

end Report

end PackageRollup
