import PackageRollup.Files.Path
import PackageRollup.Text.Quoted
import PackageRollup.Trie

/-!
# File trees

A tree holds files and directories by their locations below its root. Paths that do not begin with a
slash start from the current directory. Following a path, opening a file and making a directory fail
for the causes that a file system gives, with its numbers and its words. What is below the tree may
have causes of its own to refuse a change, or to take only some of the bytes for a file.
-/

namespace PackageRollup

/-- A file with its bytes, or a directory. -/
inductive Entry where
  | file (content : Bytes)
  | directory
deriving DecidableEq

/-- Why a file system refuses an operation. -/
inductive FileFault where
  | missing
  | occupied
  | notDirectory
  | isDirectory
  | nameTooLong
  /-- A cause that does not come from a tree, as its number and its words. -/
  | other (number : Nat) (words : Text)
deriving DecidableEq

def FileFault.number : FileFault → Nat
  | missing => 2
  | occupied => 17
  | notDirectory => 20
  | isDirectory => 21
  | nameTooLong => 36
  | other number _ => number

def FileFault.words : FileFault → Text
  | missing => "No such file or directory"
  | occupied => "File exists"
  | notDirectory => "Not a directory"
  | isDirectory => "Is a directory"
  | nameTooLong => "File name too long"
  | other _ words => words

def FileFault.message (fault : FileFault) : Text :=
  "[Errno " ++ Text.ofNat fault.number ++ "] " ++ fault.words

/-- What is said of a fault at a path that is shown like this. -/
def FileFault.messageAt (fault : FileFault) (shown : Text) : Text :=
  fault.message ++ ": " ++ Text.quoted shown

/-- What a tree is kept on: a device that may be full, broken, or closed to the one who writes. That
a file is missing is not for it to say. -/
structure Device where
  /-- Why nothing is made or emptied at a path, although nothing in the tree is in the way. -/
  denial? : Path → Option FileFault
  /-- How many of the bytes for an open file are kept, and why it does not take or hold them all. -/
  breakOff? : Bytes → Option (Nat × FileFault)
  number_ne_missing : ∀ p fault, denial? p = some fault → fault.number ≠ FileFault.missing.number

/-- The part of the bytes for an open file that is kept. -/
def Device.kept (d : Device) (bytes : Bytes) : Bytes :=
  match d.breakOff? bytes with
  | some (n, _) => bytes.take n
  | none => bytes

/-- A device that takes everything. -/
def Device.willing : Device where
  denial? _ := none
  breakOff? _ := none
  number_ne_missing := by simp

/-- The entries of a file system, the current directory, and what they are kept on. -/
structure Tree where
  current : Location
  root : Trie Bytes Entry
  device : Device

/-- The causes that count as there being nothing: no such entry, no directory above it, no such
descriptor, and too many links. -/
def FileFault.isAbsence (fault : FileFault) : Bool := [2, 20, 9, 40].contains fault.number

inductive PathFailure where
  /-- The file system refuses it. -/
  | refused (fault : FileFault) (path : Path)
  /-- The path holds a null character. -/
  | nullCharacter
  /-- The path has no encoding. -/
  | unencodable (run : Utf8.SurrogateRun)
  /-- More directories are missing above it than are made at once. -/
  | tooDeep
deriving DecidableEq

def PathFailure.message : PathFailure → Text
  | refused fault path => fault.messageAt path.text
  | nullCharacter => "embedded null byte"
  | unencodable run => run.message
  | tooDeep => "maximum recursion depth exceeded while calling a Python object"

inductive Place where
  | found (location : Location) (e : Entry)
  | vacant (location : Location)

def Place.location : Place → Location
  | found l _ => l
  | vacant l => l

namespace Tree

def empty : Tree := ⟨[], .empty, .willing⟩

/-- The entry at a location; the root is a directory. -/
def find? (t : Tree) (l : Location) : Option Entry :=
  if l = [] then some .directory else t.root.find? l

def put (t : Tree) (l : Location) (e : Entry) : Tree := { t with root := t.root.put e l }

theorem find?_put {t : Tree} {l k : Location} {e : Entry} (hl : l ≠ []) :
    (t.put l e).find? k = if k = l then some e else t.find? k := by
  by_cases hk : k = []
  · subst hk; simp [find?, Ne.symm hl]
  · simp [find?, put, hk, Trie.find?_put]

def maxNameBytes : Nat := 255

def maxPathBytes : Nat := 4095

def parentName : Bytes := Path.nameOf ".."

/-- A way down from the root: the names on it with what lies behind them, the last one first. -/
abbrev Way := List (Bytes × Trie Bytes Entry)

def Way.location (w : Way) : Location := (w.map Prod.fst).reverse

def Way.last (root : Trie Bytes Entry) : Way → Trie Bytes Entry
  | [] => root
  | (_, t) :: _ => t

/-- Follow names from the end of a way to a directory. -/
def follow (root : Trie Bytes Entry) (w : Way) : List Bytes → Except FileFault Place
  | [] => .ok (.found w.location .directory)
  | name :: names =>
    if name = parentName then follow root w.tail names
    else if maxNameBytes < name.length then .error .nameTooLong
    else
      let next : Way := (name, (w.last root).child name) :: w
      match (next.last root).here with
      | some .directory => follow root next names
      | some (.file content) =>
        if names.isEmpty then .ok (.found next.location (.file content)) else .error .notDirectory
      | none => if names.isEmpty then .ok (.vacant next.location) else .error .missing

/-- The first run of surrogates in a path that do not stand for bytes. -/
def surrogatesOf (path : Text) : Option Utf8.SurrogateRun :=
  Utf8.surrogateRunFrom (fun c ↦ c.isSurrogate && (Utf8.rawByte? c).isNone) 0 path

def startOf (t : Tree) (p : Path) : Location := if p.slashes = 0 then t.current else []

def lookup (t : Tree) (p : Path) : Except PathFailure Place :=
  match surrogatesOf p.text with
  | some run => .error (.unencodable run)
  | none =>
    if p.text.contains (CodePoint.ofNat 0) then .error .nullCharacter
    else if maxPathBytes < (Path.nameOf p.text).length then .error (.refused .nameTooLong p)
    else match follow t.root [] (t.startOf p ++ p.location) with
      | .ok place => .ok place
      | .error fault => .error (.refused fault p)

def entryAt (t : Tree) (p : Path) : Except PathFailure Entry :=
  match t.lookup p with
  | .ok (.found _ e) => .ok e
  | .ok (.vacant _) => .error (.refused .missing p)
  | .error failure => .error failure

/-- The entry that is answered, if there is one. A path that cannot exist leads to nothing; a cause
that does not count as there being nothing is a failure. -/
def ifAny : Except PathFailure Entry → Except PathFailure (Option Entry)
  | .ok e => .ok (some e)
  | .error (.refused fault p) => if fault.isAbsence then .ok none else .error (.refused fault p)
  | .error _ => .ok none

/-- The entry that a path leads to, if there is one. -/
def entryIfAny (t : Tree) (p : Path) : Except PathFailure (Option Entry) := ifAny (t.entryAt p)

def readFile (t : Tree) (p : Path) : Except PathFailure Bytes :=
  match t.entryAt p with
  | .ok (.file content) => .ok content
  | .ok .directory => .error (.refused .isDirectory p)
  | .error failure => .error failure

def makeDirectory (t : Tree) (p : Path) : Except PathFailure Tree :=
  match t.lookup p with
  | .ok (.vacant l) =>
    match t.device.denial? p with
    | some fault => .error (.refused fault p)
    | none => .ok (t.put l .directory)
  | .ok (.found ..) => .error (.refused .occupied p)
  | .error failure => .error failure

def isDirectory (t : Tree) (p : Path) : Bool :=
  match t.entryAt p with
  | .ok .directory => true
  | _ => false

/-- The tree after an operation, and why it failed, if it did. -/
structure Changed where
  tree : Tree
  failure : Option PathFailure

/-- Make a directory unless it exists; its parent must exist. -/
def ensureDirectory (t : Tree) (p : Path) : Changed :=
  match t.makeDirectory p with
  | .ok t => ⟨t, none⟩
  | .error (.refused fault q) =>
    if fault ≠ .missing ∧ t.isDirectory p then ⟨t, none⟩ else ⟨t, some (.refused fault q)⟩
  | .error failure => ⟨t, some failure⟩

/-- The number of directories that are looked for above each other. Each is a call within a call,
and the interpreter gives up at a thousand of them; some twenty are under way already. -/
def maxMissing : Nat := 980

/-- Make a directory and the directories above it unless they exist, looking for so many of them.
The names of the path are given backwards. -/
def ensureNames (t : Tree) (slashes : Nat) : Nat → List Text → Changed
  | 0, _ => ⟨t, some .tooDeep⟩
  | _ + 1, [] => t.ensureDirectory ⟨slashes, []⟩
  | more + 1, name :: above =>
    let p : Path := ⟨slashes, (name :: above).reverse⟩
    match t.makeDirectory p with
    | .error (.refused .missing _) =>
      match ensureNames t slashes more above with
      | ⟨t, none⟩ => t.ensureDirectory p
      | failed => failed
    | _ => t.ensureDirectory p

def ensureDirectories (t : Tree) (p : Path) : Changed :=
  ensureNames t p.slashes maxMissing p.parts.reverse

/-- Empty the file that a path leads to, or make it; its location is answered. -/
def openFile (t : Tree) (p : Path) : Except PathFailure (Location × Tree) :=
  match t.lookup p with
  | .ok (.found _ .directory) => .error (.refused .isDirectory p)
  | .ok place =>
    match t.device.denial? p with
    | some fault => .error (.refused fault p)
    | none => .ok (place.location, t.put place.location (.file []))
  | .error failure => .error failure

/-- Write bytes to the empty file at a location and close it. If that breaks off, a part of them is
there, and the cause is answered. -/
def fillFile (t : Tree) (l : Location) (bytes : Bytes) : Tree × Option FileFault :=
  (t.put l (.file (t.device.kept bytes)), (t.device.breakOff? bytes).map Prod.snd)

/-- Add the directories above an entry, as far as nothing is there yet. Their names are given
backwards. -/
def addDirectories (t : Tree) : List Bytes → Tree
  | [] => t
  | name :: above =>
    let t := addDirectories t above
    let l := (name :: above).reverse
    if (t.find? l).isNone then t.put l .directory else t

/-- Add a file or a directory, and the directories above it. -/
def add (t : Tree) (l : Location) (e : Entry) : Tree :=
  (t.addDirectories l.dropLast.reverse).put l e

/-- The tree that holds only a directory, which is the current one. -/
def ofDirectory (l : Location) : Tree := { empty.add l .directory with current := l }

/-- The entries that another tree lacks or holds otherwise. -/
def changesFrom (before after : Tree) : List (Location × Entry) :=
  after.root.entries.filter fun (l, e) ↦ before.find? l ≠ some e

end Tree

end PackageRollup
