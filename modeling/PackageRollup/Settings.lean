import PackageRollup.Files.Input
import PackageRollup.Session.Basic
import PackageRollup.Toml.Reader

/-!
# Settings

What a run needs to know besides its input. Settings come from the `pkgdeps` table of the file
`.pkgdeps.toml`, or else from the `tool.pkgdeps` table of `pyproject.toml`. The second file is
looked at only if the first one does not exist or cannot be read. A file that cannot even be looked
up is a fault. A value that does not fit leaves its setting as it is.
-/

namespace PackageRollup

structure Settings where
  libraries : List Text
  roots : List Text
  output : Option Path
  /-- The name of the output format, if one is set. -/
  format : Option Text
deriving DecidableEq

/-- Why the settings cannot be taken from a file. -/
inductive SettingsFault where
  /-- There is a value where a table is needed. -/
  | notTable
  /-- A value does not support what is asked of it. -/
  | unfit
  /-- The values of a file are nested too deep. -/
  | nesting
  /-- A value that is passed over is nested too deep to be shown. -/
  | unshowable
  /-- A file cannot be looked up; its path is shown like this. -/
  | refused (failure : PathFailure) (shown : Text)
deriving DecidableEq

namespace Settings

def default : Settings where
  libraries := Session.defaultLibraries
  roots := BasePackage.defaultRoots
  output := none
  format := some "markdown"

def defaultOutput : Path := Path.ofText "package-dependencies.md"

def outputPath (s : Settings) : Path := s.output.getD defaultOutput

def formatNames : List Text := ["markdown", "json"]

/-- Why there is no document in a file that is there. -/
inductive ReadProblem where
  /-- The file cannot be opened. -/
  | refused (fault : FileFault)
  /-- The file cannot be read to its end, or what is in it is no document. -/
  | failed (reason : Text)

def ReadProblem.message (shown : Text) : ReadProblem → Text
  | refused fault => fault.messageAt shown
  | failed reason => reason

/-- What comes of looking for a file and reading it. That looking for it fails is one thing, that
opening or reading it fails is another. -/
inductive FileState where
  | absent
  | refused (failure : PathFailure)
  | unreadable (problem : ReadProblem)
  | nested
  | document (table : Toml.Table)

def FileState.ofAnswers (a : Answers) : FileState :=
  match a.found with
  | .error failure => .refused failure
  | .ok none => .absent
  | .ok (some _) =>
    match a.opened with
    | .error fault => .unreadable (.refused fault)
    | .ok (.broken _ reason) => .unreadable (.failed reason)
    | .ok (.bytes content) =>
      match Toml.read content with
      | .ok table => .document table
      | .error (.malformed reason) => .unreadable (.failed reason)
      | .error .nesting => .nested

/-- The value of the settings, which should be a table, with the events on the way to it. -/
structure Selected where
  value : Except SettingsFault Toml.Value
  events : List Event

/-- The value at a name of a table, the empty table if there is none. -/
def memberOrEmpty (name : Text) (table : Toml.Table) : Toml.Value :=
  (table.find? name).getD (.table [])

/-- The settings in the second file. -/
def selectSecond (state : FileState) (shown : Text) : Selected :=
  match state with
  | .absent => ⟨.ok (.table []), []⟩
  | .refused failure => ⟨.error (.refused failure shown), []⟩
  | .unreadable problem => ⟨.ok (.table []), [.unreadableSettings shown (problem.message shown)]⟩
  | .nested => ⟨.error .nesting, []⟩
  | .document table =>
    match memberOrEmpty "tool" table with
    | .table sub => ⟨.ok (memberOrEmpty "pkgdeps" sub), []⟩
    | _ => ⟨.error .notTable, []⟩

/-- The settings in the files of the given states, which are shown under the given names. -/
def select (first second : FileState) (shownFirst shownSecond : Text) : Selected :=
  match first with
  | .document table => ⟨.ok (memberOrEmpty "pkgdeps" table), []⟩
  | .refused failure => ⟨.error (.refused failure shownFirst), []⟩
  | .nested => ⟨.error .nesting, []⟩
  | .absent => selectSecond second shownSecond
  | .unreadable problem =>
    let rest := selectSecond second shownSecond
    let event := Event.unreadableSettings shownFirst (problem.message shownFirst)
    { rest with events := event :: rest.events }

def allTexts? : List Toml.Value → Option (List Text)
  | [] => some []
  | .text t :: values => (allTexts? values).map (t :: ·)
  | _ :: _ => none

/-- The names that a value gives: a text with commas, or an array of texts. -/
def names? : Toml.Value → Option (List Text)
  | .text t => some (NameList.ofText t)
  | .array items => (allTexts? items).map NameList.normalize
  | _ => none

/-- The settings so far with the events so far, or the reason to give up. -/
structure Loaded where
  settings : Settings
  events : List Event
  fault : Option SettingsFault

/-- What a key gives: a value if a fitting one is there, and an event if one is there that does not
fit. -/
abbrev Given (α : Type) := Except SettingsFault (Option α × List Event)

/-- A value is passed over with an event that shows it. If an integer in it is too long for that,
the event says so; if the value is nested too deep, that is a fault. -/
def passOver {α : Type} (event : Text → Event) (value : Toml.Value) : Given α :=
  match value.shown with
  | .ok shown => .ok (none, [event shown])
  | .error .digits => .ok (none, [.unshown ("ValueError: " ++ Toml.Unshowable.digits.message)])
  | .error .nesting => .error .unshowable

def namesAt (key : Text) (table : Toml.Table) : Given (List Text) :=
  match table.find? key with
  | none => .ok (none, [])
  | some value =>
    match names? value with
    | some names => .ok (some names, [])
    | none => passOver (.ignoredNames key) value

/-- The path of the output, if one is given. A value that counts as given must be a text. -/
def outputAt (table : Toml.Table) : Given Path :=
  match table.find? "output" with
  | none => .ok (none, [])
  | some value =>
    if value.isGiven then
      match value.text? with
      | some t => .ok (some (Path.ofText t), [])
      | none => .error .unfit
    else .ok (none, [])

/-- The format, if a known one is given. -/
def formatAt (table : Toml.Table) : Given Text :=
  match table.find? "format" with
  | none => .ok (none, [])
  | some value =>
    match value.text?.filter (· ∈ formatNames) with
    | some name => .ok (some name, [])
    | none => passOver .ignoredFormat value

def nameKeys : List Text := ["libraries", "two_segment_roots"]

/-- Take what a key gives into the settings, unless there was a fault before. -/
def Loaded.take {α : Type} (given : Given α) (change : α → Settings → Settings) (l : Loaded) :
    Loaded :=
  match l.fault, given with
  | some _, _ => l
  | none, .error fault => { l with fault := some fault }
  | none, .ok (value, events) =>
    { l with settings := value.elim l.settings (change · l.settings), events := l.events ++ events }

def ofTable (table : Toml.Table) : Loaded :=
  (((Loaded.take (namesAt "libraries" table) (fun names s ↦ { s with libraries := names })
    ⟨default, [], none⟩).take
    (namesAt "two_segment_roots" table) (fun names s ↦ { s with roots := names })).take
    (outputAt table) (fun path s ↦ { s with output := some path })).take
    (formatAt table) (fun name s ↦ { s with format := some name })

/-- Why a value that is no table gives no settings. Looking for a key in a text or in an array is
possible, and only finding it is a fault of its own. -/
def faultOf : Toml.Value → SettingsFault
  | .text t => if nameKeys.any fun key ↦ Text.occursIn key t then .unfit else .notTable
  | .array items =>
    if nameKeys.any fun key ↦ items.any fun item ↦ item.text? == some key then .unfit
    else .notTable
  | _ => .unfit

def ofValue : Toml.Value → Loaded
  | .table members => ofTable members
  | value => ⟨default, [], some (faultOf value)⟩

def firstName : Text := ".pkgdeps.toml"

def secondName : Text := "pyproject.toml"

/-- The settings from the answers about the two files, whose directory is shown like this. -/
def loadFrom (first second : Answers) (shown : Text) : Loaded :=
  let selected := select (.ofAnswers first) (.ofAnswers second)
    (shown ++ "/" ++ firstName) (shown ++ "/" ++ secondName)
  match selected.value with
  | .error fault => ⟨default, selected.events, some fault⟩
  | .ok value =>
    let loaded := ofValue value
    { loaded with events := selected.events ++ loaded.events }

/-- The settings in a directory, which is shown in events under the given name. -/
def load (t : Tree) (directory : Path) (shown : Text) : Loaded :=
  loadFrom (.ofEntry (t.entryIfAny (directory.member firstName)))
    (.ofEntry (t.entryIfAny (directory.member secondName))) shown

end Settings

def SettingsFault.message : SettingsFault → Text
  | notTable => "the settings are not a table"
  | unfit => "a setting has a value of the wrong kind"
  | nesting => "maximum recursion depth exceeded"
  | unshowable => Toml.Unshowable.nesting.message
  | refused (.refused fault _) shown => fault.messageAt shown
  | refused failure _ => failure.message

end PackageRollup
