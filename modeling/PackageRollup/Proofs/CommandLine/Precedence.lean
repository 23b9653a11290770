import PackageRollup.CommandLine.Basic
import PackageRollup.Proofs.CommandLine.Mentions
import PackageRollup.Proofs.Files.Unavailable
import PackageRollup.Proofs.Settings

/-!
# Where each setting comes from

Every setting is taken from the command line if its option is mentioned there, or else from the
table of the settings files if a value that fits is at its key, or else it is the default. The four
settings have nothing to do with each other, and a value that does not fit is as good as none. Which
file the table comes from depends on the first one alone: if that is a document, the second does not
count.
-/

namespace PackageRollup

/-- The members of the table at a name; there are none if there is no table. -/
def Toml.Table.membersAt (name : Text) (table : Table) : Table :=
  match table.find? name with
  | some (.table members) => members
  | _ => []

namespace Settings

variable {t : Tree} {p directory : Path} {table : Toml.Table}

/-- The document in a file, if it is there and can be read. -/
def documentAt? (t : Tree) (p : Path) : Option Toml.Table :=
  match t.readFile p with
  | .error _ => none
  | .ok content => (Toml.read content).toOption

/-- The table of the settings: the one in the first file if that is a document, or else the one in
the second. -/
def selectedTable (t : Tree) (directory : Path) : Toml.Table :=
  match documentAt? t (directory.member ".pkgdeps.toml") with
  | some document => document.membersAt "pkgdeps"
  | none =>
    match documentAt? t (directory.member "pyproject.toml") with
    | some document => (document.membersAt "tool").membersAt "pkgdeps"
    | none => []

theorem documentAt?_eq_some_iff {document : Toml.Table} :
    documentAt? t p = some document ↔ Holds (.ofEntry (t.entryIfAny p)) document := by
  rw [documentAt?, Tree.readFile]
  cases hentry : t.entryAt p with
  | error failure =>
      -- what cannot be looked up is not there
      refine iff_of_false (by simp) ?_
      rintro ⟨e, content, hfound, -⟩
      rw [Tree.entryIfAny, Tree.ifAny_eq_some_iff, hentry] at hfound
      cases hfound
  | ok e =>
      have hfound : t.entryIfAny p = .ok (some e) := Tree.ifAny_eq_some_iff.mpr hentry
      rw [hfound]
      cases e with
      | directory => simp [Holds]
      | file content => cases hread : Toml.read content <;> simp [Holds, hread, Except.toOption]

theorem documentAt?_of_harmless (h : Harmless (.ofEntry (t.entryIfAny p))) :
    documentAt? t p = none := by
  rw [Option.eq_none_iff_forall_ne_some]
  intro document hdocument
  exact h.not_holds (documentAt?_eq_some_iff.mp hdocument)

theorem membersAt_of_subtable? {name : Text} {members : Toml.Table}
    (h : table.subtable? name = some members) : table.membersAt name = members := by
  rw [Toml.Table.subtable?] at h
  rw [Toml.Table.membersAt]
  cases hfind : table.find? name with
  | none =>
      rw [hfind] at h
      exact Option.some.inj h
  | some value =>
      rw [hfind] at h
      cases value with
      | table _ => exact Option.some.inj h
      | _ => cases h

theorem selectedTable_of_gives
    (h : Gives (.ofEntry (t.entryIfAny (directory.member ".pkgdeps.toml")))
      (.ofEntry (t.entryIfAny (directory.member "pyproject.toml"))) table) :
    selectedTable t directory = table := by
  rw [selectedTable]
  cases h with
  | first hdocument htable =>
      rw [documentAt?_eq_some_iff.mpr hdocument]
      exact membersAt_of_subtable? htable
  | second hfirst hdocument htool htable =>
      rw [documentAt?_of_harmless hfirst, documentAt?_eq_some_iff.mpr hdocument]
      dsimp only
      rw [membersAt_of_subtable? htool, membersAt_of_subtable? htable]
  | neither hfirst hsecond => rw [documentAt?_of_harmless hfirst, documentAt?_of_harmless hsecond]

end Settings

namespace CommandLine

open Settings (names? outputOf? formatOf? nameKeys formatNames selectedTable)

variable {given : List Setting} {table : Toml.Table} {key : Text} {value : Toml.Value}

/-- A setting: what is stated, or else what a file has in store if that can be read, or else the
default. -/
def setting {α : Type} (stated : Option α) (read : Toml.Value → Option α)
    (stored : Option Toml.Value) (fallback : α) : α :=
  (stated.or (stored.bind read)).getD fallback

/-- The settings for the options that are given and the table of a file, each on its own. -/
def merged (given : List Setting) (table : Toml.Table) : Settings where
  libraries :=
    if (lastValue .noLibraries given).isSome then []
    else setting ((lastValue .libraries given).map givenNames) names? (table.find? "libraries")
      Session.defaultLibraries
  roots :=
    setting ((lastValue .twoSegmentRoots given).map givenNames) names?
      (table.find? "two_segment_roots") BasePackage.defaultRoots
  output :=
    setting ((lastValue .output given).map (Option.map Path.ofText))
      (fun v ↦ (outputOf? v).map some) (table.find? "output") none
  format :=
    setting (lastValue .format given) (fun v ↦ (formatOf? v).map some) (table.find? "format")
      (some "markdown")

/-- The value is of no use at the key: neither names, nor an output, nor a format. -/
structure Misfits (key : Text) (value : Toml.Value) : Prop where
  names : key ∈ nameKeys → ¬ value.IsNames
  output : key = "output" → ∀ t, value = .text t → t = []
  format : key = "format" → ∀ name ∈ formatNames, value ≠ .text name

/-- Where a setting may be absent, what is read is there. -/
theorem setting_none {α : Type} (read : Toml.Value → Option α) (stored : Option Toml.Value)
    (fallback : Option α) :
    setting none (fun v ↦ (read v).map some) stored fallback = (stored.bind read).or fallback := by
  rw [setting, Option.none_or]
  cases stored with
  | none => rfl
  | some value =>
      dsimp only [Option.bind_some]
      cases read value <;> rfl

theorem override_taken {o : Options} (h : Takes .initial given o) (table : Toml.Table) :
    o.override (Settings.taken table) = merged given table := by
  obtain ⟨houtput, hlibraries, hnone, hroots, hformat⟩ := h
  simp only [Options.initial, Option.or_none, Bool.or_false]
    at houtput hlibraries hnone hroots hformat
  simp only [Options.override, merged, Settings.taken, houtput, hlibraries, hnone, hroots, hformat,
    Settings.default]
  congr 1
  · cases lastValue .libraries given <;> rfl
  · cases lastValue .twoSegmentRoots given <;> rfl
  · cases lastValue .output given with
    | some path => rfl
    | none => rw [Option.map_none, setting_none, Option.or_none]
  · cases lastValue .format given with
    | some name => rfl
    | none => rw [setting_none]

/-- The settings of a run: what is loaded from the files, with the options in their places. -/
theorem override_load {argv : List Text} {o : Options} {t : Tree} {directory : Path} {shown : Text}
    (hoptions : readOptions argv = .ok o)
    (hloaded : (Settings.load t directory shown).fault = none) :
    o.override (Settings.load t directory shown).settings =
      merged (mentioned argv) (selectedTable t directory) := by
  obtain ⟨table, hgives, hsettings⟩ := Settings.exists_taken_of_loadFrom hloaded
  rw [Settings.load, hsettings, override_taken (takes_readOptions hoptions),
    Settings.selectedTable_of_gives hgives]

/-! ## Values that do not fit -/

theorem find?_filter_ne (table : Toml.Table) (key name : Text) :
    Toml.Table.find? name (table.filter fun m ↦ m.1 ≠ key) =
      if name = key then none else table.find? name := by
  induction table with
  | nil => simp [Toml.Table.find?]
  | cons m table ih =>
      by_cases hm : m.1 = key
      · rw [List.filter_cons_of_neg (by simp [hm]), ih, Toml.Table.find?]
        by_cases hname : name = key
        · simp [hname]
        · have hne : m.1 ≠ name := fun heq ↦ hname (heq ▸ hm)
          simp [hname, hne]
      · rw [List.filter_cons_of_pos (by simp [hm]), Toml.Table.find?, Toml.Table.find?, ih]
        by_cases hname : m.1 = name
        · have hne : name ≠ key := fun heq ↦ hm (hname.trans heq)
          simp [hname, hne]
        · simp [hname]

/-- A value that cannot be read leaves the setting as if there were none. -/
theorem setting_find?_cons {α : Type} {stated : Option α} {read : Toml.Value → Option α}
    {fallback : α} {name : Text} (h : key = name → read value = none) :
    setting stated read (Toml.Table.find? name ((key, value) :: table)) fallback =
      setting stated read (Toml.Table.find? name (table.filter fun m ↦ m.1 ≠ key)) fallback := by
  rw [find?_filter_ne, Toml.Table.find?]
  by_cases hname : key = name
  · rw [if_pos hname, if_pos hname.symm, setting, setting, Option.bind_some, h hname,
      Option.bind_none]
  · rw [if_neg hname, if_neg (Ne.symm hname)]

theorem Misfits.names?_eq (h : Misfits key value) (hkey : key ∈ nameKeys) :
    names? value = none := by
  rw [Option.eq_none_iff_forall_ne_some]
  intro names hnames
  exact h.names hkey (Settings.exists_names?_iff.mp ⟨names, hnames⟩)

theorem Misfits.outputOf?_eq (h : Misfits key value) (hkey : key = "output") :
    outputOf? value = none := by
  rw [outputOf?]
  cases value with
  | text t =>
      rw [h.output hkey t rfl]
      rfl
  | _ => exact ite_self none

theorem Misfits.formatOf?_eq (h : Misfits key value) (hkey : key = "format") :
    formatOf? value = none := by
  rw [Option.eq_none_iff_forall_ne_some]
  intro name hname
  obtain ⟨hmem, hvalue⟩ := Settings.formatOf?_eq_some_iff.mp hname
  exact h.format hkey name hmem hvalue

theorem merged_of_misfits (h : Misfits key value) (given : List Setting) (table : Toml.Table) :
    merged given ((key, value) :: table) = merged given (table.filter fun m ↦ m.1 ≠ key) := by
  have hnames : ∀ name ∈ nameKeys, key = name → names? value = none := fun name hname hkey ↦
    h.names?_eq (hkey ▸ hname)
  rw [merged, merged]
  congr 1
  · rw [setting_find?_cons (hnames "libraries" (by simp [nameKeys]))]
  · exact setting_find?_cons (hnames "two_segment_roots" (by simp [nameKeys]))
  · apply setting_find?_cons
    intro hkey
    rw [h.outputOf?_eq hkey, Option.map_none]
  · apply setting_find?_cons
    intro hkey
    rw [h.formatOf?_eq hkey, Option.map_none]

/-! ## The settings of a run -/

/-- Where the settings files can be loaded, the program runs with the settings that the command line
mentions last, and for those it does not mention with what fits in the table of the files, and the
defaults. A value in the table that does not fit has no influence on any setting. -/
theorem execute_merges {argv : List Text} {o : Options} (t : Tree) (stdin : StandardInput)
    (directory : Text) (hoptions : readOptions argv = .ok o)
    (hloaded : (Settings.load t ⟨0, []⟩ directory).fault = none) :
    (∃ settings, settings = merged (mentioned argv) (selectedTable t ⟨0, []⟩) ∧
      execute argv directory t stdin =
        outcomeOf o.verbose (Settings.load t ⟨0, []⟩ directory).events
          (Run.run settings t stdin (o.input.getD []))) ∧
    ∀ key value, Misfits key value → ∀ table,
      merged (mentioned argv) ((key, value) :: table) =
        merged (mentioned argv) (table.filter fun m ↦ m.1 ≠ key) := by
  refine ⟨⟨_, rfl, ?_⟩, fun key value h table ↦ merged_of_misfits h _ table⟩
  simp only [execute, hoptions, hloaded, override_load hoptions hloaded]

/-- Two settings files, both documents; a list of roots in the first is no list of names. -/
def bothFiles : Tree :=
  (Settings.fileAlone ".pkgdeps.toml"
    "[pkgdeps]\nlibraries = 'x'\ntwo_segment_roots = 5\nformat = 'json'\n").add
      [Path.nameOf "pyproject.toml"]
      (.file (Utf8.encodeEscaped "[tool.pkgdeps]\noutput = 'p.md'\ntwo_segment_roots = 'com'\n"))

theorem execute_merges_both_files :
    ∃ o, readOptions ["-l", "A,b", "in", "--out=r.md", "-vos.md"] = .ok o ∧
      (Settings.load bothFiles ⟨0, []⟩ "d").fault = none ∧
      execute ["-l", "A,b", "in", "--out=r.md", "-vos.md"] "d" bothFiles (.bytes []) =
        outcomeOf true (Settings.load bothFiles ⟨0, []⟩ "d").events
          (Run.run ⟨["a", "b"], BasePackage.defaultRoots, some ⟨0, ["s.md"]⟩, some "json"⟩
            bothFiles (.bytes []) "in") := by
  have hoptions : readOptions ["-l", "A,b", "in", "--out=r.md", "-vos.md"] =
      .ok ⟨some "in", some (some "s.md"), some (some "A,b"), false, none, none, true, []⟩ := by
    decide +kernel
  have hloaded : (Settings.load bothFiles ⟨0, []⟩ "d").fault = none := by decide +kernel
  have hmerged : merged (mentioned ["-l", "A,b", "in", "--out=r.md", "-vos.md"])
      (selectedTable bothFiles ⟨0, []⟩) =
        ⟨["a", "b"], BasePackage.defaultRoots, some ⟨0, ["s.md"]⟩, some "json"⟩ := by
    decide +kernel
  obtain ⟨⟨settings, hsettings, hexecute⟩, -⟩ :=
    execute_merges bothFiles (.bytes []) "d" hoptions hloaded
  rw [hmerged] at hsettings
  subst hsettings
  exact ⟨_, hoptions, hloaded, hexecute⟩

end CommandLine

end PackageRollup
