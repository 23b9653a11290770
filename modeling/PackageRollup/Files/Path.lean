import PackageRollup.Text.Utf8

/-!
# Paths

A path is a list of parts between slashes. Empty parts and single dots are dropped when a path is
read; double dots are kept. A path may begin with one slash, or with exactly two. The names in a
file system are bytes; parts with different texts can stand for the same name.
-/

namespace PackageRollup

structure Path where
  /-- The number of slashes in front. -/
  slashes : Nat
  parts : List Text
deriving DecidableEq

/-- The names from the root of a file system down to an entry. -/
abbrev Location := List Bytes

namespace Path

def isVoid (part : Text) : Bool := part.isEmpty || part == ("." : Text)

def ofText (t : Text) : Path where
  slashes :=
    let n := (t.takeWhile fun c ↦ decide (c = CodePoint.ofChar '/')).length
    if n ≤ 2 then n else 1
  parts := (Text.splitOn '/' t).filter fun part ↦ !isVoid part

/-- The text of a path; the path without parts is the current directory. -/
def text (p : Path) : Text :=
  if p.slashes = 0 ∧ p.parts = [] then "."
  else List.replicate p.slashes (CodePoint.ofChar '/') ++ Text.join "/" p.parts

def parent (p : Path) : Path := { p with parts := p.parts.dropLast }

def member (p : Path) (part : Text) : Path := { p with parts := p.parts ++ [part] }

def nameOf (part : Text) : Bytes := Utf8.encodeEscaped part

/-- The location of a path whose parts are names, from where the path starts. -/
def location (p : Path) : Location := p.parts.map nameOf

end Path

namespace Location

/-- The text of a location, from where its first name is. -/
def text (l : Location) : Text := Text.join "/" (l.map Utf8.decodeEscaping)

end Location

end PackageRollup
