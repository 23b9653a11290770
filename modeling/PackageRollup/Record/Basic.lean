import PackageRollup.Json.Reader

/-!
# Dependency records

A record says that a class calls another one, and which artifact the calling class comes from. It is
written as one JSON object on a line of its own. Four members must be texts; six more are kept if
they are texts; everything else is ignored.
-/

namespace PackageRollup

/-- A call from one class to another. -/
structure Record where
  sourceClass : Text
  targetClass : Text
  artifactId : Text
  artifactGroup : Text
  appSetName : Option Text
  applicationName : Option Text
  artifactFileName : Option Text
  artifactVersion : Option Text
  sourceMethod : Option Text
  targetMethod : Option Text
deriving DecidableEq

namespace Record

/-- The members that a record must have, in the order in which they are looked at. -/
inductive Field where
  | sourceClass
  | targetClass
  | artifactId
  | artifactGroup
deriving DecidableEq

def Field.key : Field → Text
  | sourceClass => "sourceClass"
  | targetClass => "targetClass"
  | artifactId => "artifactId"
  | artifactGroup => "artifactGroup"

inductive Reason where
  | notJson (m : Json.Malformed)
  | notObject (value : Json)
  | missing (f : Field)
  | notText (f : Field)

structure Rejection where
  line : Text
  number : Option Int
  reason : Reason

/-- The outcome of reading a line that is not a record. -/
inductive Failure where
  | rejected (r : Rejection)
  | limit (l : Json.Limit)

/-- The kind of a JSON value, as it is called in messages. -/
def kindName : Json → Text
  | .null => "NoneType"
  | .bool _ => "bool"
  | .int _ => "int"
  | .real _ | .infinite _ | .notANumber => "float"
  | .str _ => "str"
  | .arr _ => "list"
  | .obj _ => "dict"

/-- A member that must be a text. A member that is null counts as missing. -/
def required (members : List (Text × Json)) (f : Field) : Except Reason Text :=
  match Json.lookup f.key members with
  | none | some .null => .error (.missing f)
  | some (.str t) => .ok t
  | some _ => .error (.notText f)

/-- A member that is kept if it is a text. -/
def optional (members : List (Text × Json)) (key : Text) : Option Text :=
  (Json.lookup key members).bind Json.text?

def ofMembers (members : List (Text × Json)) : Except Reason Record := do
  let sourceClass ← required members .sourceClass
  let targetClass ← required members .targetClass
  let artifactId ← required members .artifactId
  let artifactGroup ← required members .artifactGroup
  return {
    sourceClass, targetClass, artifactId, artifactGroup
    appSetName := optional members "appSetName"
    applicationName := optional members "applicationName"
    artifactFileName := optional members "artifactFileName"
    artifactVersion := optional members "artifactVersion"
    sourceMethod := optional members "sourceMethod"
    targetMethod := optional members "targetMethod" }

def ofJson : Json → Except Reason Record
  | .obj members => ofMembers members
  | value => .error (.notObject value)

/-- Read a line as a record. The number is only passed on. -/
def decode (line : Text) (number : Option Int) : Except Failure Record :=
  match Json.read line with
  | .error (.malformed m) => .error (.rejected ⟨line, number, .notJson m⟩)
  | .error (.limit l) => .error (.limit l)
  | .ok value =>
    match ofJson value with
    | .ok record => .ok record
    | .error reason => .error (.rejected ⟨line, number, reason⟩)

def Reason.message : Reason → Text
  | notJson m => "invalid JSON (" ++ m.message ++ ")"
  | notObject value => "expected a JSON object, got " ++ kindName value
  | missing f => "missing field '" ++ f.key ++ "'"
  | notText f => "field '" ++ f.key ++ "' must be a string"

/-- What is said of a line that is not a record, with its number. -/
def Rejection.message (r : Rejection) : Text :=
  let place : Text := match r.number with
    | some n => "line " ++ Text.ofInt n
    | none => "line"
  "Could not decode " ++ place ++ ": " ++ r.reason.message

/-- Lines longer than this are cut when they are shown. -/
def maxShown : Nat := 200

def shownLine (line : Text) : Text :=
  if maxShown < line.length then line.take maxShown ++ "..." else line

def Rejection.warning (r : Rejection) : Text :=
  let number : Text := match r.number with
    | some n => Text.ofInt n
    | none => "None"
  "Error parsing line " ++ number ++ ": " ++ shownLine r.line ++ " (" ++ r.reason.message ++ ")"

end Record

end PackageRollup
