import PackageRollup.Proofs.Files.Unavailable
import PackageRollup.Proofs.Name.List
import PackageRollup.Proofs.Toml.Shown
import PackageRollup.Settings

/-!
# Settings from files

Settings can be taken from two files just when there is a table, or nothing, at every name on the
way to them, and the output is a text or does not count as given. Names and a format that do not fit
are passed over, unless they are nested too deep for the message about them. A file that cannot be
read does no harm, a file that cannot be looked up does. What has been taken is in normal form, and
what has been passed over leaves the default.
-/

namespace PackageRollup

namespace Toml

/-- The table that a table has at a name, which is empty if there is nothing. -/
def Table.subtable? (name : Text) (table : Table) : Option Table :=
  match table.find? name with
  | none => some []
  | some (.table members) => some members
  | some _ => none

/-- A text, or an array of texts. -/
inductive Value.IsNames : Value → Prop where
  | text (t : Text) : IsNames (.text t)
  | array (ts : List Text) : IsNames (.array (ts.map .text))

end Toml

namespace Settings

variable {t : Tree} {directory : Path} {first second a : Answers} {table : Toml.Table} {l : Loaded}
  {key shown : Text}

/-! ## The table of the settings -/

/-- There is a document in the file. -/
def Holds (a : Answers) (document : Toml.Table) : Prop :=
  ∃ e content, a.found = .ok (some e) ∧ a.opened = .ok (.bytes content) ∧
    Toml.read content = .ok document

/-- There is no document in the file, but this does no harm: it is not there, or it cannot be
opened, or reading it breaks off, or it is malformed. -/
inductive Harmless (a : Answers) : Prop where
  | absent (h : a.found = .ok none)
  | refused (e : Entry) (fault : FileFault) (hfound : a.found = .ok (some e))
      (hopened : a.opened = .error fault)
  | broken (e : Entry) (lines : List Text) (reason : Text) (hfound : a.found = .ok (some e))
      (hopened : a.opened = .ok (.broken lines reason))
  | malformed (e : Entry) (content : Bytes) (reason : Text) (hfound : a.found = .ok (some e))
      (hopened : a.opened = .ok (.bytes content))
      (hread : Toml.read content = .error (.malformed reason))

/-- The table of the settings in two files, if there are tables or nothing on the way to it. The
second file counts if there is no document in the first one. -/
inductive Gives (first second : Answers) : Toml.Table → Prop where
  | first {document table : Toml.Table} (h : Holds first document)
      (htable : document.subtable? "pkgdeps" = some table) : Gives first second table
  | second {document tool table : Toml.Table} (hfirst : Harmless first)
      (h : Holds second document) (htool : document.subtable? "tool" = some tool)
      (htable : tool.subtable? "pkgdeps" = some table) : Gives first second table
  | neither (hfirst : Harmless first) (hsecond : Harmless second) : Gives first second []

theorem ofAnswers_eq_document_iff {document : Toml.Table} :
    FileState.ofAnswers a = .document document ↔ Holds a document := by
  constructor
  · intro h
    rw [FileState.ofAnswers] at h
    split at h
    · cases h
    · cases h
    next e hfound =>
    split at h
    · cases h
    · cases h
    next content hopened =>
    split at h
    next hread =>
      cases h
      exact ⟨e, content, hfound, hopened, hread⟩
    · cases h
    · cases h
  · rintro ⟨e, content, hfound, hopened, hread⟩
    simp only [FileState.ofAnswers, hfound, hopened, hread]

theorem harmless_iff :
    Harmless a ↔ FileState.ofAnswers a = .absent ∨
      ∃ problem, FileState.ofAnswers a = .unreadable problem := by
  constructor
  · intro h
    cases h with
    | absent h => simp [FileState.ofAnswers, h]
    | refused e fault hfound hopened => simp [FileState.ofAnswers, hfound, hopened]
    | broken e lines reason hfound hopened => simp [FileState.ofAnswers, hfound, hopened]
    | malformed e content reason hfound hopened hread =>
        simp [FileState.ofAnswers, hfound, hopened, hread]
  · rw [FileState.ofAnswers]
    split
    next => simp
    next hfound => exact fun _ ↦ .absent hfound
    next e hfound =>
    split
    next fault hopened => exact fun _ ↦ .refused e fault hfound hopened
    next lines reason hopened => exact fun _ ↦ .broken e lines reason hfound hopened
    next content hopened =>
    split
    next => simp
    next reason hread => exact fun _ ↦ .malformed e content reason hfound hopened hread
    next => simp

theorem Harmless.not_holds {document : Toml.Table} (h : Harmless a) : ¬ Holds a document := by
  rw [← ofAnswers_eq_document_iff]
  obtain hstate | ⟨problem, hstate⟩ := harmless_iff.mp h <;> simp [hstate]

theorem subtable?_eq_some_iff {name : Text} {members : Toml.Table} :
    table.subtable? name = some members ↔ memberOrEmpty name table = .table members := by
  rw [Toml.Table.subtable?, memberOrEmpty]
  cases table.find? name with
  | none => simp
  | some value => cases value <;> simp

theorem selectSecond_value_iff :
    (selectSecond (.ofAnswers second) shown).value = .ok (.table table) ↔
      (∃ document tool, Holds second document ∧ document.subtable? "tool" = some tool ∧
        tool.subtable? "pkgdeps" = some table) ∨ Harmless second ∧ table = [] := by
  simp only [← ofAnswers_eq_document_iff, harmless_iff]
  cases FileState.ofAnswers second with
  | absent => simp [selectSecond, eq_comm]
  | refused failure => simp [selectSecond]
  | unreadable problem => simp [selectSecond, eq_comm]
  | nested => simp [selectSecond]
  | document document =>
      rw [selectSecond]
      cases hmember : memberOrEmpty "tool" document with
      | table tool => simp [hmember, subtable?_eq_some_iff]
      | _ => simp [hmember, subtable?_eq_some_iff]

theorem select_value_iff {shown' : Text} :
    (select (.ofAnswers first) (.ofAnswers second) shown shown').value = .ok (.table table) ↔
      Gives first second table := by
  have hgives : Gives first second table ↔
      (∃ document, Holds first document ∧ document.subtable? "pkgdeps" = some table) ∨
        Harmless first ∧
          (selectSecond (.ofAnswers second) shown').value = .ok (.table table) := by
    rw [selectSecond_value_iff]
    constructor
    · intro h
      cases h with
      | first h htable => exact .inl ⟨_, h, htable⟩
      | second hfirst h htool htable => exact .inr ⟨hfirst, .inl ⟨_, _, h, htool, htable⟩⟩
      | neither hfirst hsecond => exact .inr ⟨hfirst, .inr ⟨hsecond, rfl⟩⟩
    · rintro (⟨document, h, htable⟩ | ⟨hfirst, ⟨document, tool, h, htool, htable⟩ | ⟨hsecond, rfl⟩⟩)
      · exact .first h htable
      · exact .second hfirst h htool htable
      · exact .neither hfirst hsecond
  simp only [hgives, ← ofAnswers_eq_document_iff, harmless_iff]
  cases FileState.ofAnswers first with
  | document document => simp [select, subtable?_eq_some_iff]
  | refused failure => simp [select]
  | nested => simp [select]
  | absent => simp [select]
  | unreadable problem => simp [select]

/-! ## The values of the settings -/

def outputOf? (value : Toml.Value) : Option Path :=
  if value.isGiven then value.text?.map Path.ofText else none

def formatOf? (value : Toml.Value) : Option Text := value.text?.filter (· ∈ formatNames)

/-- The settings that a table gives. The value at a key counts if it fits, and otherwise the setting
is the default. -/
def taken (table : Toml.Table) : Settings where
  libraries := ((table.find? "libraries").bind names?).getD default.libraries
  roots := ((table.find? "two_segment_roots").bind names?).getD default.roots
  output := (table.find? "output").bind outputOf?
  format := ((table.find? "format").bind formatOf?).or default.format

/-- Every value for a setting fits, or it can be passed over. For the output there is no passing
over. -/
structure Tolerable (table : Toml.Table) : Prop where
  names : ∀ key ∈ nameKeys, ∀ value, table.find? key = some value →
    value.IsNames ∨ value.Passable
  output : ∀ value, table.find? "output" = some value → value.isGiven →
    ∃ t, value = .text t
  format : ∀ value, table.find? "format" = some value →
    (∃ name ∈ formatNames, value = .text name) ∨ value.Passable

theorem allTexts?_eq_some_iff {values : List Toml.Value} {ts : List Text} :
    allTexts? values = some ts ↔ values = ts.map .text := by
  induction values generalizing ts with
  | nil => cases ts <;> simp [allTexts?]
  | cons value values ih =>
      cases value with
      | text t => cases ts <;> simp [allTexts?, ih, and_comm]
      | _ => cases ts <;> simp [allTexts?]

theorem exists_names?_iff {value : Toml.Value} :
    (∃ names, names? value = some names) ↔ value.IsNames := by
  constructor
  · rintro ⟨names, hnames⟩
    cases value with
    | text t => exact .text t
    | array items =>
        obtain ⟨ts, hts, -⟩ := Option.map_eq_some_iff.mp hnames
        rw [allTexts?_eq_some_iff.mp hts]
        exact .array ts
    | _ => cases hnames
  · rintro (t | ts)
    · exact ⟨_, rfl⟩
    · exact ⟨NameList.normalize ts, Option.map_eq_some_iff.mpr
        ⟨ts, allTexts?_eq_some_iff.mpr rfl, rfl⟩⟩

theorem clean_of_names? {value : Toml.Value} {names : List Text}
    (h : names? value = some names) : NameList.Clean names := by
  cases value with
  | text t =>
      cases h
      exact NameList.clean_normalize _
  | array items =>
      obtain ⟨ts, -, rfl⟩ := Option.map_eq_some_iff.mp h
      exact NameList.clean_normalize ts
  | _ => cases h

theorem formatOf?_eq_some_iff {value : Toml.Value} {name : Text} :
    formatOf? value = some name ↔ name ∈ formatNames ∧ value = .text name := by
  rw [formatOf?]
  cases value with
  | text t =>
      simp only [Toml.Value.text?, Option.filter_eq_some_iff, Option.some.injEq,
        Toml.Value.text.injEq, decide_eq_true_eq]
      exact and_comm
  | _ => simp [Toml.Value.text?]

/-! ## Reading a table -/

theorem exists_passOver_iff {α : Type} {event : Text → Event} {value : Toml.Value}
    {given : Option α} :
    (∃ events, passOver event value = .ok (given, events)) ↔ given = none ∧ value.Passable := by
  have hnesting : value.Passable ↔ value.shown ≠ .error .nesting := by
    rw [Ne, Toml.Value.shown_eq_nesting_iff, not_not]
  rw [passOver, hnesting]
  rcases value.shown with (_ | _) | shown <;> simp [eq_comm]

theorem exists_namesAt_iff {names : Option (List Text)} :
    (∃ events, namesAt key table = .ok (names, events)) ↔
      names = (table.find? key).bind names? ∧
        ∀ value, table.find? key = some value → value.IsNames ∨ value.Passable := by
  rw [namesAt]
  cases table.find? key with
  | none => simp [eq_comm]
  | some value =>
      have hiff : (∃ names, names? value = some names) ↔ value.IsNames := exists_names?_iff
      cases hnames : names? value with
      | some given =>
          have hfits : value.IsNames := hiff.mp ⟨given, hnames⟩
          simp [hnames, hfits, eq_comm]
      | none =>
          have hnot : ¬ value.IsNames := by simp [← hiff, hnames]
          simp [hnames, hnot, exists_passOver_iff]

theorem exists_outputAt_iff {path : Option Path} :
    (∃ events, outputAt table = .ok (path, events)) ↔
      path = (table.find? "output").bind outputOf? ∧
        ∀ value, table.find? "output" = some value → value.isGiven → ∃ t, value = .text t := by
  rw [outputAt]
  cases table.find? "output" with
  | none => simp [@eq_comm _ path]
  | some value =>
      by_cases hgiven : value.isGiven
      · cases value with
        | text t => simp [outputOf?, hgiven, Toml.Value.text?, @eq_comm _ path]
        | _ => simp [outputOf?, hgiven, Toml.Value.text?]
      · simp [outputOf?, hgiven, @eq_comm _ path]

theorem exists_formatAt_iff {format : Option Text} :
    (∃ events, formatAt table = .ok (format, events)) ↔
      format = (table.find? "format").bind formatOf? ∧
        ∀ value, table.find? "format" = some value →
          (∃ name ∈ formatNames, value = .text name) ∨ value.Passable := by
  rw [formatAt]
  cases table.find? "format" with
  | none => simp [eq_comm]
  | some value =>
      have hiff : ∀ name, value.text?.filter (· ∈ formatNames) = some name ↔
          name ∈ formatNames ∧ value = .text name := fun _ ↦ formatOf?_eq_some_iff
      simp only [Option.bind_some, formatOf?]
      cases hknown : value.text?.filter (· ∈ formatNames) with
      | some name =>
          have hfits : ∃ name ∈ formatNames, value = .text name := ⟨name, (hiff name).mp hknown⟩
          simp [hfits, eq_comm]
      | none =>
          have hnot : ¬ ∃ name ∈ formatNames, value = .text name := by simp [← hiff, hknown]
          simp [hnot, exists_passOver_iff]

theorem take_fault_eq_none_iff {α : Type} {given : Given α} {change : α → Settings → Settings} :
    (l.take given change).fault = none ↔
      l.fault = none ∧ ∃ value events, given = .ok (value, events) := by
  cases hl : l.fault with
  | some fault => simp [Loaded.take, hl]
  | none => rcases given with fault | ⟨value, events⟩ <;> simp [Loaded.take, hl]

theorem ofTable_fault_eq_none_iff : (ofTable table).fault = none ↔ Tolerable table := by
  simp only [ofTable, take_fault_eq_none_iff, exists_namesAt_iff, exists_outputAt_iff,
    exists_formatAt_iff, exists_eq_left]
  constructor
  · rintro ⟨⟨⟨⟨-, hlibraries⟩, hroots⟩, houtput⟩, hformat⟩
    exact ⟨by simpa [nameKeys] using ⟨hlibraries, hroots⟩, houtput, hformat⟩
  · rintro ⟨hnames, houtput, hformat⟩
    exact ⟨⟨⟨⟨trivial, hnames _ (by simp [nameKeys])⟩, hnames _ (by simp [nameKeys])⟩, houtput⟩,
      hformat⟩

theorem settings_ofTable (h : Tolerable table) : (ofTable table).settings = taken table := by
  obtain ⟨_, hlibraries⟩ := exists_namesAt_iff.mpr ⟨rfl, h.names "libraries" (by simp [nameKeys])⟩
  obtain ⟨_, hroots⟩ :=
    exists_namesAt_iff.mpr ⟨rfl, h.names "two_segment_roots" (by simp [nameKeys])⟩
  obtain ⟨_, houtput⟩ := exists_outputAt_iff.mpr ⟨rfl, h.output⟩
  obtain ⟨_, hformat⟩ := exists_formatAt_iff.mpr ⟨rfl, h.format⟩
  simp only [ofTable, hlibraries, hroots, houtput, hformat, Loaded.take, taken]
  cases (table.find? "libraries").bind names? <;>
    cases (table.find? "two_segment_roots").bind names? <;>
    cases (table.find? "output").bind outputOf? <;>
    cases (table.find? "format").bind formatOf? <;> rfl

/-! ## Settings in normal form -/

/-- What a run can rely on, whatever the settings come from. -/
structure Sound (s : Settings) : Prop where
  libraries : NameList.Clean s.libraries
  roots : NameList.Clean s.roots
  format : ∃ name ∈ formatNames, s.format = some name
  output : ∀ path, s.output = some path → ∃ t, path = Path.ofText t

theorem sound_default : Sound default where
  libraries := ⟨by decide, by decide, by decide, by decide⟩
  roots := ⟨by decide, by decide, by decide, by decide⟩
  format := ⟨"markdown", by decide, rfl⟩
  output := by
    rintro path ⟨⟩

theorem sound_take {α : Type} {given : Given α} {change : α → Settings → Settings}
    (hl : l.settings.Sound)
    (hchange : ∀ a events, given = .ok (some a, events) → ∀ s : Settings, s.Sound →
      (change a s).Sound) :
    (l.take given change).settings.Sound := by
  cases hfault : l.fault with
  | some fault => simpa [Loaded.take, hfault] using hl
  | none =>
      rcases given with fault | ⟨_ | a, events⟩
      · simpa [Loaded.take, hfault] using hl
      · simpa [Loaded.take, hfault] using hl
      · simpa [Loaded.take, hfault] using hchange a events rfl l.settings hl

theorem clean_of_namesAt {names : List Text} {events : List Event}
    (h : namesAt key table = .ok (some names, events)) : NameList.Clean names := by
  obtain ⟨hnames, -⟩ := exists_namesAt_iff.mp ⟨events, h⟩
  obtain ⟨value, -, hvalue⟩ := Option.bind_eq_some_iff.mp hnames.symm
  exact clean_of_names? hvalue

theorem exists_of_outputAt {path : Path} {events : List Event}
    (h : outputAt table = .ok (some path, events)) : ∃ t, path = Path.ofText t := by
  obtain ⟨hpath, -⟩ := exists_outputAt_iff.mp ⟨events, h⟩
  obtain ⟨value, -, hvalue⟩ := Option.bind_eq_some_iff.mp hpath.symm
  rw [outputOf?] at hvalue
  split at hvalue
  · obtain ⟨t, -, rfl⟩ := Option.map_eq_some_iff.mp hvalue
    exact ⟨t, rfl⟩
  · cases hvalue

theorem mem_of_formatAt {name : Text} {events : List Event}
    (h : formatAt table = .ok (some name, events)) : name ∈ formatNames := by
  obtain ⟨hname, -⟩ := exists_formatAt_iff.mp ⟨events, h⟩
  obtain ⟨value, -, hvalue⟩ := Option.bind_eq_some_iff.mp hname.symm
  exact (formatOf?_eq_some_iff.mp hvalue).1

theorem sound_ofTable (table : Toml.Table) : (ofTable table).settings.Sound := by
  refine sound_take (sound_take (sound_take (sound_take sound_default ?_) ?_) ?_) ?_
  · intro names _ hnames s hs
    exact { hs with libraries := clean_of_namesAt hnames }
  · intro names _ hnames s hs
    exact { hs with roots := clean_of_namesAt hnames }
  · intro path _ hpath s hs
    refine { hs with output := ?_ }
    rintro _ ⟨⟩
    exact exists_of_outputAt hpath
  · intro name _ hname s hs
    exact { hs with format := ⟨name, mem_of_formatAt hname, rfl⟩ }

theorem ofValue_fault_eq_none_iff {value : Toml.Value} :
    (ofValue value).fault = none ↔ ∃ table, value = .table table ∧ Tolerable table := by
  cases value with
  | table table => simp [ofValue, ofTable_fault_eq_none_iff]
  | _ => simp [ofValue]

theorem sound_ofValue (value : Toml.Value) : (ofValue value).settings.Sound := by
  cases value with
  | table table => exact sound_ofTable table
  | _ => exact sound_default

/-! ## Loading -/

/-- Loading is reading the value that the two files select. -/
theorem exists_loadFrom_eq (first second : Answers) (shown : Text) :
    ∃ selected : Selected,
      (∀ table, selected.value = .ok (.table table) ↔ Gives first second table) ∧
      loadFrom first second shown =
        match selected.value with
        | .error fault => ⟨default, selected.events, some fault⟩
        | .ok value => { ofValue value with events := selected.events ++ (ofValue value).events } :=
  ⟨_, fun _ ↦ select_value_iff, rfl⟩

theorem exists_taken_of_loadFrom (h : (loadFrom first second shown).fault = none) :
    ∃ table, Gives first second table ∧ (loadFrom first second shown).settings = taken table := by
  obtain ⟨selected, hselect, hload⟩ := exists_loadFrom_eq first second shown
  rw [hload] at h ⊢
  cases hvalue : selected.value with
  | error fault =>
      rw [hvalue] at h
      cases h
  | ok value =>
      rw [hvalue] at h
      obtain ⟨table, rfl, htolerable⟩ := ofValue_fault_eq_none_iff.mp h
      exact ⟨table, (hselect table).mp hvalue, settings_ofTable htolerable⟩

/-- Whatever a file system answers about the two files, their settings can be taken just when
nothing is in the way of their table and the table is tolerable; they are then what the table gives.
They are in normal form in any case. -/
theorem loadFrom_fault_eq_none_iff (first second : Answers) (shown : Text) :
    ((loadFrom first second shown).fault = none ↔
      ∃ table, Gives first second table ∧ Tolerable table) ∧
    (loadFrom first second shown).settings.Sound ∧
    ∀ table, Gives first second table → Tolerable table →
      (loadFrom first second shown).settings = taken table := by
  obtain ⟨selected, hselect, hload⟩ := exists_loadFrom_eq first second shown
  simp only [← hselect, hload]
  cases selected.value with
  | error fault => exact ⟨by simp, sound_default, by rintro table ⟨⟩⟩
  | ok value =>
      refine ⟨by simp [ofValue_fault_eq_none_iff], sound_ofValue value, ?_⟩
      rintro table ⟨⟩ htolerable
      exact settings_ofTable htolerable

/-- In a tree only a path that is too long cannot be looked up. -/
theorem exists_found_error_iff {p : Path} :
    (∃ failure, (Answers.ofEntry (t.entryIfAny p)).found = .error failure) ↔ t.IsTooLong p :=
  Tree.escapes_iff.symm.trans Tree.escapes_entryAt_iff

/-- An integer that is too long to be shown is passed over like any other. -/
example :
    let loaded := ofTable [("libraries", .integer (10 ^ 4300))]
    loaded.fault = none ∧ loaded.settings = default := by
  decide +kernel

/-- A current directory with nothing but a file of the given text. -/
def fileAlone (name content : Text) : Tree :=
  Tree.empty.add [Path.nameOf name] (.file (Utf8.encodeEscaped content))

example :
    let loaded := load (fileAlone "pyproject.toml"
      "[tool.pkgdeps]\nlibraries = ' Struts,,X'\noutput = []\nformat = 5\n") ⟨0, []⟩ "."
    loaded.fault = none ∧ loaded.settings = { default with libraries := ["struts", "x"] } := by
  decide +kernel

/-- An integer where a table should be, one where a path should be, and an array where a table
should be: each file is well-formed, and none of them gives settings. -/
theorem load_of_misplaced_values :
    (load (fileAlone ".pkgdeps.toml" "pkgdeps = 5\n") ⟨0, []⟩ ".").fault = some .unfit ∧
    (load (fileAlone ".pkgdeps.toml" "[pkgdeps]\noutput = 5\n") ⟨0, []⟩ ".").fault =
      some .unfit ∧
    (load (fileAlone "pyproject.toml" "tool = []\n") ⟨0, []⟩ ".").fault = some .notTable := by
  decide +kernel

end Settings

end PackageRollup
