import PackageRollup.Proofs.Coarsening
import PackageRollup.Proofs.CommandLine.Precedence
import PackageRollup.Proofs.Report.Coverage
import PackageRollup.Proofs.Run.Output

/-!
# Roots as they are written

Roots are names that a package begins with, but the list of them is read as a list of keywords, in
lower case. A package is therefore where the list as it is written puts it just when its first
segment is an entry of both lists or of neither; or else it has two segments, and the roots do not
matter.
-/

namespace PackageRollup

namespace BasePackage

variable {roots roots' : List Text} {p : Text}

def root (p : Text) : Text := (Text.splitOn '.' p).headD []

/-- The first segments of a package: two of them if the first is one of the roots, and otherwise
three or as many as there are. -/
def below (roots : List Text) (p : Text) : Text :=
  if root p ∈ roots then Text.join "." ((Text.splitOn '.' p).take 2)
  else Text.join "." ((Text.splitOn '.' p).take 3)

theorem exists_splitOn (h : 2 ≤ (Text.splitOn '.' p).length) :
    ∃ first second rest, Text.splitOn '.' p = first :: second :: rest := by
  match hpieces : Text.splitOn (CodePoint.ofChar '.') p with
  | first :: second :: rest => exact ⟨first, second, rest, rfl⟩
  | [_] | [] => simp [hpieces] at h

theorem ofPackage_ofList (h : 2 ≤ (Text.splitOn '.' p).length) :
    ofPackage (.ofList roots) p = some (below roots p) := by
  obtain ⟨first, second, rest, hpieces⟩ := exists_splitOn h
  simp only [ofPackage_of_splitOn hpieces, below, root, hpieces, depth, NameSet.mem_ofList,
    List.headD_cons]
  split <;> rfl

theorem join_take_eq_iff (h : 2 ≤ (Text.splitOn '.' p).length) :
    Text.join "." ((Text.splitOn '.' p).take 2) = Text.join "." ((Text.splitOn '.' p).take 3) ↔
      (Text.splitOn '.' p).length = 2 := by
  obtain ⟨first, second, rest, hpieces⟩ := exists_splitOn h
  rw [hpieces]
  constructor
  · intro heq
    have hsplit := congrArg (Text.splitOn '.') heq
    rw [splitOn_join_take hpieces 0, splitOn_join_take hpieces 1] at hsplit
    cases rest with
    | nil => rfl
    | cons third rest => simp at hsplit
  · intro hlength
    cases rest with
    | nil => rfl
    | cons third rest => simp at hlength

theorem below_eq_below_iff (h : 2 ≤ (Text.splitOn '.' p).length) :
    below roots p = below roots' p ↔
      (Text.splitOn '.' p).length = 2 ∨ (root p ∈ roots ↔ root p ∈ roots') := by
  rw [below, below, ← join_take_eq_iff h]
  split
  next hroot =>
    split
    next hroot' => simp [hroot, hroot']
    next hroot' => simp [hroot, hroot']
  next hroot =>
    split
    next hroot' => simp [hroot, hroot', eq_comm]
    next hroot' => simp [hroot, hroot']

end BasePackage

namespace NameList

/-- Where all names are in lower case, only empty ones are lost. -/
theorem mem_normalize_of_lower {names : List Text} {name : Text} (hname : name ≠ [])
    (h : ∀ given ∈ names, Text.lower (Text.trim given) = Text.trim given) :
    name ∈ names.map Text.trim ↔ name ∈ normalize names := by
  rw [mem_normalize, List.mem_map]
  constructor
  · rintro ⟨given, hgiven, rfl⟩
    exact ⟨hname, given, hgiven, h given hgiven⟩
  · rintro ⟨-, given, hgiven, rfl⟩
    exact ⟨given, hgiven, (h given hgiven).symm⟩

end NameList

/-- The names that a value lists, as they are written. -/
def Settings.written? : Toml.Value → Option (List Text)
  | .text t => some (Text.splitOn ',' t)
  | .array items => allTexts? items
  | _ => none

theorem Settings.names?_eq_map_written? (value : Toml.Value) :
    names? value = (written? value).map NameList.normalize := by
  cases value <;> rfl

namespace CommandLine

open Settings (written?)

/-- The list of roots that counts, as it is written: on the command line, or else in the table of a
file. -/
def writtenRoots (given : List Setting) (table : Toml.Table) : Option (List Text) :=
  match lastValue .twoSegmentRoots given with
  | some (some t) => some (Text.splitOn ',' t)
  | some none => some []
  | none => (table.find? "two_segment_roots").bind written?

theorem roots_merged {given : List Setting} {table : Toml.Table} {entries : List Text}
    (h : writtenRoots given table = some entries) :
    (merged given table).roots = NameList.normalize entries := by
  rw [writtenRoots] at h
  simp only [merged, setting]
  split at h
  next t hlast =>
    obtain rfl := Option.some.inj h
    rw [hlast]
    rfl
  next hlast =>
    obtain rfl := Option.some.inj h
    rw [hlast]
    rfl
  next hlast =>
    obtain ⟨value, hvalue, hwritten⟩ := Option.bind_eq_some_iff.mp h
    rw [hlast, hvalue, Option.bind_some, Settings.names?_eq_map_written?, hwritten]
    rfl

end CommandLine

namespace Run

open BasePackage (root below)
open CommandLine (writtenRoots mentioned readOptions merged)
open Settings (selectedTable)

/-- The packages that a run registers: those that the records of its input mention. -/
def registered (source : Source) : List Text :=
  Record.allPackages (source.lines.filterMap Record.ofLine?)

/-- The first segment of the package is an entry of the list as it is written if it is one of the
list as it is read, and conversely; or there is no third segment. -/
def KeepsRoot (entries : List Text) (p : Text) : Prop :=
  (Text.splitOn '.' p).length = 2 ∨
    (root p ∈ entries.map Text.trim ↔ root p ∈ NameList.normalize entries)

theorem report_analyze {settings : Settings} {t : Tree} {stdin : StandardInput} {argument : Text} :
    (analyze settings t stdin argument).report =
      (analyzeSource settings (Source.ofArgument t stdin argument)).report := rfl

theorem holders_analyzeSource {settings : Settings} {source : Source} {r : Report} {p : Text}
    (h : (analyzeSource settings source).report = .ok r) (hp : p ∈ registered source)
    (hsegments : 2 ≤ (Text.splitOn '.' p).length) : r.holders p = [below settings.roots p] := by
  have hbase : BasePackage.ofPackage (.ofList settings.roots) p = some (below settings.roots p) :=
    BasePackage.ofPackage_ofList hsegments
  rw [report_analyzeSource_eq h]
  apply Session.holders_summarize_eq_singleton
  · exact Session.mem_image_bases_start.mpr ⟨hp, hbase⟩
  · intro c hc
    obtain ⟨-, hc⟩ := Session.mem_image_bases_start.mp hc
    exact Option.some.inj (hc.symm.trans hbase)

/-- A package of two segments or more is in one detail, which goes by the list of roots in lower
case. It is where the list puts it as it is written just when the package keeps its root; and so it
does if all entries are in lower case, unless it begins with a dot. -/
theorem placed_as_written_iff {argv : List Text} {o : CommandLine.Options} {t : Tree}
    {directory : Text} {entries : List Text} {stdin : StandardInput} {r : Report}
    (hoptions : readOptions argv = .ok o)
    (hloaded : (Settings.load t ⟨0, []⟩ directory).fault = none)
    (hwritten : writtenRoots (mentioned argv) (selectedTable t ⟨0, []⟩) = some entries)
    (hreport : (analyze (o.override (Settings.load t ⟨0, []⟩ directory).settings) t stdin
      (o.input.getD [])).report = .ok r) {p : Text}
    (hp : p ∈ registered (Source.ofArgument t stdin (o.input.getD [])))
    (hsegments : 2 ≤ (Text.splitOn '.' p).length) :
    r.holders p = [below (NameList.normalize entries) p] ∧
      (r.holders p = [below (entries.map Text.trim) p] ↔ KeepsRoot entries p) ∧
      ((∀ entry ∈ entries, Text.lower (Text.trim entry) = Text.trim entry) →
        root p ≠ [] → KeepsRoot entries p) := by
  rw [CommandLine.override_load hoptions hloaded, report_analyze] at hreport
  have hholders := holders_analyzeSource hreport hp hsegments
  rw [CommandLine.roots_merged hwritten] at hholders
  refine ⟨hholders, ?_, fun hlower hhead ↦ ?_⟩
  · rw [hholders, List.singleton_inj, eq_comm, BasePackage.below_eq_below_iff hsegments]
    exact Iff.rfl
  · exact Or.inr (NameList.mem_normalize_of_lower hhead hlower)

/-- Two roots, of which one has a capital letter. -/
def twoRoots : List Text := ["-", "--two-seg", "com, Foo"]

def twoEntries : List Text := ["com", " Foo"]

def twoRootsOptions : CommandLine.Options :=
  ⟨some "-", none, none, false, some (some "com, Foo"), none, false, []⟩

/-- A record with a package below each root. -/
def belowBoth : StandardInput := .bytes
  (("\x7b\"sourceClass\":\"Foo.Bar.Baz.Qux.C\",\"targetClass\":\"com.acme.app.web.D\"," ++
    "\"artifactId\":\"m\",\"artifactGroup\":\"g\"\x7d" : Text).flatMap Utf8.encodeOne)

theorem placed_as_written_lower_root :
    ∃ o r, readOptions twoRoots = .ok o ∧ (Settings.load .empty ⟨0, []⟩ "d").fault = none ∧
      writtenRoots (mentioned twoRoots) (selectedTable .empty ⟨0, []⟩) = some twoEntries ∧
      (analyze (o.override (Settings.load .empty ⟨0, []⟩ "d").settings) .empty belowBoth
        (o.input.getD [])).report = .ok r ∧
      ("com.acme.app.web" : Text) ∈ registered (Source.ofArgument .empty belowBoth
        (o.input.getD [])) ∧
      2 ≤ (Text.splitOn '.' "com.acme.app.web").length ∧
      r.holders "com.acme.app.web" = ["com.acme"] := by
  have hoptions : readOptions twoRoots = .ok twoRootsOptions := by decide +kernel
  have hloaded : (Settings.load .empty ⟨0, []⟩ "d").fault = none := by decide +kernel
  have hwritten : writtenRoots (mentioned twoRoots) (selectedTable .empty ⟨0, []⟩) =
      some twoEntries := by decide +kernel
  have hsome : (analyzeSource
      (twoRootsOptions.override (Settings.load .empty ⟨0, []⟩ "d").settings)
      (Source.ofArgument .empty belowBoth "-")).report.toOption.isSome = true := by decide +kernel
  obtain ⟨r, hr⟩ := exists_report_of_isSome hsome
  rw [← report_analyze] at hr
  have hp : ("com.acme.app.web" : Text) ∈
      registered (Source.ofArgument .empty belowBoth "-") := by decide +kernel
  have hsegments : 2 ≤ (Text.splitOn '.' "com.acme.app.web").length := by decide +kernel
  have hgiven : root "com.acme.app.web" ∈ twoEntries.map Text.trim := by decide +kernel
  have hread : root "com.acme.app.web" ∈ NameList.normalize twoEntries :=
    NameList.mem_normalize.mpr ⟨by decide +kernel, "com", List.mem_cons_self, by decide +kernel⟩
  have hbelow : below (twoEntries.map Text.trim) "com.acme.app.web" = "com.acme" := by
    decide +kernel
  have hplaced :=
    (placed_as_written_iff hoptions hloaded hwritten hr hp hsegments).2.1.mpr
      (Or.inr (iff_of_true hgiven hread))
  rw [hbelow] at hplaced
  exact ⟨_, r, hoptions, hloaded, hwritten, hr, hp, hsegments, hplaced⟩

/-- A root with a capital letter is not heeded: its package has three segments, where the list as it
is written leaves two. -/
theorem capital_root_unheeded :
    readOptions twoRoots = .ok twoRootsOptions ∧
      (Settings.load .empty ⟨0, []⟩ "d").fault = none ∧
      writtenRoots (mentioned twoRoots) (selectedTable .empty ⟨0, []⟩) = some twoEntries ∧
      (analyze (twoRootsOptions.override (Settings.load .empty ⟨0, []⟩ "d").settings) .empty
        belowBoth "-").report.toOption.map (·.holders "Foo.Bar.Baz.Qux") =
          some [("Foo.Bar.Baz" : Text)] ∧
      below (twoEntries.map Text.trim) "Foo.Bar.Baz.Qux" = "Foo.Bar" := by
  refine ⟨by decide +kernel, by decide +kernel, by decide +kernel, by decide +kernel, ?_⟩
  decide +kernel

end Run

end PackageRollup
