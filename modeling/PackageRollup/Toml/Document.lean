import PackageRollup.Toml.Value

/-!
# TOML documents under construction

While a document is read, every table remembers how it came to be. A table that exists only because
a longer path runs through it may still be opened by a header; one that was opened by a header or by
a dotted name is closed to both as soon as the section that opened it is over. Values that are
written out, arrays and tables among them, are never entered again. A path that runs through an
array of tables enters its last table.
-/

namespace PackageRollup.Toml

/-- A member of a table under construction. -/
inductive Node where
  /-- A value that is written out. -/
  | value (v : Value)
  /-- A table, and the section that opened it unless it only lies on the path to another. -/
  | table (opened : Option Nat) (members : List (Text × Node))
  /-- An array of tables: the finished ones and the last one. -/
  | tables (finished : List Value) (members : List (Text × Node))

/-- A table under construction. -/
abbrev Members := List (Text × Node)

namespace Members

def find? (name : Text) : Members → Option Node
  | [] => none
  | (key, node) :: ms => if key = name then some node else find? name ms

/-- Give a name a node; a new name is put at the end. -/
def set (name : Text) (node : Node) : Members → Members
  | [] => [(name, node)]
  | (key, old) :: ms => if key = name then (key, node) :: ms else (key, old) :: set name node ms

end Members

mutual

def Node.toValue : Node → Value
  | .value v => v
  | .table _ ms => .table (membersToTable ms)
  | .tables finished ms => .array (finished ++ [.table (membersToTable ms)])

def membersToTable : List (Text × Node) → List (Text × Value)
  | [] => []
  | (name, node) :: ms => (name, node.toValue) :: membersToTable ms

end

/-- A step of a path: a name, and whether it belongs to a dotted name rather than to a header. -/
structure PathStep where
  name : Text
  dotted : Bool

/-- Why a name or a path cannot be used as it is meant to. -/
inductive Clash where
  /-- A value that is no container is in the way. -/
  | overwritten
  /-- An array or a table that is written out is in the way. -/
  | immutable
  /-- A dotted name runs into a table that is closed, or into an array of tables, at the given
  path. -/
  | closed (path : List Text)
  /-- The table has been opened before. -/
  | declared
  /-- The name has been given a value before, or a table; whether that is a container that is
  written out. -/
  | taken (container : Bool)

/-- A clash below a name. -/
def Clash.below (name : Text) : Clash → Clash
  | closed path => closed (name :: path)
  | clash => clash

/-- What comes of running into a value that is written out. -/
def clashWith : Value → Clash
  | .array _ | .table _ => .immutable
  | _ => .overwritten

/-- Change the table at the end of a path in the given section, opening tables on the way. There is
no such table if the path runs into a value, or if a dotted name runs into a closed table. -/
def atPath (current : Nat) (change : Members → Except Clash Members) :
    List PathStep → Members → Except Clash Members
  | [], ms => change ms
  | step :: path, ms => do
    let mark := if step.dotted then some current else none
    let changed (sub : Members) := (atPath current change path sub).mapError (Clash.below step.name)
    match ms.find? step.name with
    | none => return ms.set step.name (.table mark (← changed []))
    | some (.value v) => .error (clashWith v)
    | some (.table opened sub) =>
      if step.dotted && opened.any (· < current) then .error (.closed [step.name])
      else return ms.set step.name (.table (opened.or mark) (← changed sub))
    | some (.tables finished sub) =>
      if step.dotted then .error (.closed [step.name])
      else return ms.set step.name (.tables finished (← changed sub))

/-- Give a new name a value. -/
def define (name : Text) (v : Value) (ms : Members) : Except Clash Members :=
  match ms.find? name with
  | none => .ok (ms.set name (.value v))
  | some (.value (.array _)) | some (.value (.table _)) => .error (.taken true)
  | some _ => .error (.taken false)

/-- Open a table, which must be new or merely lie on a path. -/
def openTable (current : Nat) (name : Text) (ms : Members) : Except Clash Members :=
  match ms.find? name with
  | none => .ok (ms.set name (.table (some current) []))
  | some (.table none sub) => .ok (ms.set name (.table (some current) sub))
  | some (.value v) => .error (clashWith v)
  | some _ => .error .declared

/-- Add a table to an array of tables, or begin one. -/
def openItem (name : Text) (ms : Members) : Except Clash Members :=
  match ms.find? name with
  | none => .ok (ms.set name (.tables [] []))
  | some (.tables finished sub) =>
    .ok (ms.set name (.tables (finished ++ [.table (membersToTable sub)]) []))
  | some (.value v) => .error (clashWith v)
  | some (.table ..) => .error .overwritten

/-- A document under construction: its members, the number of headers so far, and the path of the
last header. -/
structure Document where
  members : Members
  sections : Nat
  header : List Text

namespace Document

def empty : Document := ⟨[], 0, []⟩

def headerSteps (header : List Text) : List PathStep := header.map (⟨·, false⟩)

/-- Set the member with the given dotted name, below the last header. -/
def assign (doc : Document) (parents : List Text) (name : Text) (v : Value) :
    Except Clash Document :=
  let path := headerSteps doc.header ++ parents.map (⟨·, true⟩)
  (atPath doc.sections (define name v) path doc.members).map fun ms ↦ { doc with members := ms }

/-- The header of a table. -/
def beginTable (doc : Document) (parents : List Text) (name : Text) : Except Clash Document :=
  let next := doc.sections + 1
  (atPath next (openTable next name) (headerSteps parents) doc.members).map fun ms ↦
    ⟨ms, next, parents ++ [name]⟩

/-- The header of an item of an array of tables. -/
def beginItem (doc : Document) (parents : List Text) (name : Text) : Except Clash Document :=
  let next := doc.sections + 1
  (atPath next (openItem name) (headerSteps parents) doc.members).map fun ms ↦
    ⟨ms, next, parents ++ [name]⟩

def toTable (doc : Document) : Table := membersToTable doc.members

end Document

end PackageRollup.Toml
