import PackageRollup.Proofs.Files.Frame
import PackageRollup.Proofs.Report.Lossless
import PackageRollup.Proofs.Session.Chunks
import PackageRollup.Run

/-!
# Writing the report

A file is emptied before the text of the report is encoded. The JSON text is ASCII and can always be
encoded. The Markdown text shows names as they are, and a name that came out of an escape may hold a
surrogate, which has no encoding; the file is then left empty, and the failure is not one of the
output. A device that does not take the whole encoding leaves a beginning of it in the file. A path
that cannot be opened has no such consequences: nothing but directories is made.
-/

namespace PackageRollup

theorem Utf8.encode_eq_ok_iff {t : Text} :
    (∃ bytes, encode t = .ok bytes) ↔ ∀ c ∈ t, c.isSurrogate = false := by
  have hnone : surrogateRunFrom CodePoint.isSurrogate 0 t = none ↔
      ∀ c ∈ t, c.isSurrogate = false := surrogateRunFrom_eq_none_iff
  rw [← hnone, encode]
  cases surrogateRunFrom CodePoint.isSurrogate 0 t <;> simp

theorem CodePoint.le_of_isSurrogate {c : CodePoint} (hc : c.isSurrogate) : 128 ≤ c.val := by
  simp only [CodePoint.isSurrogate, Bool.and_eq_true, decide_eq_true_eq] at hc
  omega

/-- No surrogate is ASCII, so only the other code points have to be looked at. -/
theorem CodePoint.isSurrogate_eq_false {c : CodePoint} (h : 128 ≤ c.val → c.isSurrogate = false) :
    c.isSurrogate = false := by
  cases hs : c.isSurrogate with
  | false => rfl
  | true => exact hs.symm.trans (h (le_of_isSurrogate hs))

/-- The device takes all of the encoding of a text, if there is one. -/
def Device.Takes (d : Device) (text : Text) : Prop :=
  ∀ bytes, Utf8.encode text = .ok bytes → d.breakOff? bytes = none

theorem Device.takes_willing (text : Text) : Device.willing.Takes text := fun _ _ ↦ rfl

def Format.name : Format → Text
  | .markdown => "markdown"
  | .json => "json"

theorem Format.ofName?_name (f : Format) : Format.ofName? f.name = some f := by
  cases f <;> rfl

namespace Run

variable {settings : Settings} {source : Source} {t : Tree} {path : Path} {r : Report} {text : Text}

/-! ## Writing a text -/

theorem writeReport_name (t : Tree) (path : Path) (f : Format) (r : Report) :
    writeReport t path (some f.name) r = writeText t path (r.text f) := by
  simp only [writeReport, Format.ofName?_name]

/-- Where no file can be opened, nothing is lost. -/
theorem writeText_of_obstacle {failure : PathFailure} (h : t.obstacle? path = some failure)
    (text : Text) :
    (writeText t path text).failure = some (outputFailure path failure) ∧
      Tree.GrowsAlong path.parent t (writeText t path text).tree := by
  have hgrows := t.growsAlong_ensureDirectories path.parent
  rw [Tree.obstacle?] at h
  rw [writeText]
  cases hensure : t.ensureDirectories path.parent with
  | mk u reason =>
      rw [hensure] at h hgrows
      cases reason with
      | some reason =>
          cases h
          exact ⟨rfl, hgrows⟩
      | none =>
          dsimp only at h ⊢
          cases hopen : u.openFile path with
          | error reason =>
              rw [hopen] at h
              cases h
              exact ⟨rfl, hgrows⟩
          | ok p =>
              rw [hopen] at h
              cases h

theorem exists_open_of_obstacle? (h : t.obstacle? path = none) :
    ∃ u l v, t.ensureDirectories path.parent = ⟨u, none⟩ ∧
      Tree.GrowsAlong path.parent t u ∧ u.openFile path = .ok (l, v) := by
  have hgrows := t.growsAlong_ensureDirectories path.parent
  rw [Tree.obstacle?] at h
  cases hensure : t.ensureDirectories path.parent with
  | mk u reason =>
      rw [hensure] at h hgrows
      cases reason with
      | some reason => cases h
      | none =>
          dsimp only at h
          cases hopen : u.openFile path with
          | error reason =>
              rw [hopen] at h
              cases h
          | ok p => exact ⟨u, p.1, p.2, rfl, hgrows, hopen⟩

/-- Where a file can be opened, it holds what the device keeps of the text, and the device is the
only one to object. -/
theorem puts_writeText_of_encode_ok (h : t.obstacle? path = none) {bytes : Bytes}
    (hbytes : Utf8.encode text = .ok bytes) :
    (writeText t path text).failure =
        (t.device.breakOff? bytes).map (fun b ↦ .output path (.brokenOff b.2)) ∧
      Tree.Puts path (t.device.kept bytes) t (writeText t path text).tree := by
  obtain ⟨u, l, v, hensure, hgrows, hopen⟩ := exists_open_of_obstacle? h
  have hdevice : v.device = t.device := (Tree.device_of_openFile hopen).trans hgrows.device
  have hwritten : writeText t path text = writeBytes v path l bytes := by
    simp only [writeText, hensure, hopen, hbytes]
  rw [hwritten, writeBytes, Tree.fillFile, hdevice]
  refine ⟨?_, Tree.puts_put_of_openFile hgrows hopen _⟩
  dsimp only
  rw [Option.map_map]
  rfl

/-- A text without an encoding leaves nothing in the file. -/
theorem puts_writeText_of_encode_error (h : t.obstacle? path = none) {run : Utf8.SurrogateRun}
    (hrun : Utf8.encode text = .error run) :
    (writeText t path text).failure =
        ((t.device.breakOff? []).map fun b ↦ .output path (.brokenOff b.2)).or
          (some (.unencodable run)) ∧
      Tree.Puts path [] t (writeText t path text).tree := by
  obtain ⟨u, l, v, hensure, hgrows, hopen⟩ := exists_open_of_obstacle? h
  have hdevice : v.device = t.device := (Tree.device_of_openFile hopen).trans hgrows.device
  have hwritten : writeText t path text =
      { writeBytes v path l [] with
        failure := (writeBytes v path l []).failure.or (some (.unencodable run)) } := by
    simp only [writeText, hensure, hopen, hrun]
  rw [hwritten, writeBytes, Tree.fillFile, hdevice, Device.kept_nil]
  refine ⟨?_, Tree.puts_put_of_openFile hgrows hopen _⟩
  dsimp only
  rw [Option.map_map]
  rfl

/-! ## The text of a report -/

/-- The names of an input that the Markdown of its report shows: the library keywords, and the
packages with a dot. -/
def namesShown (settings : Settings) (source : Source) : List Text :=
  NameList.normalize settings.libraries ++
    (Record.allPackages (source.lines.filterMap Record.ofLine?)).filter
      fun p ↦ decide (CodePoint.ofChar '.' ∈ p)

/-- The report on a source: what a session has to say that absorbs the records in its lines. -/
def reportOf (settings : Settings) (source : Source) : Report :=
  ((Session.start settings.libraries (NameSet.ofList settings.roots)).absorbAll
    (source.lines.filterMap Record.ofLine?)).build.summarize

theorem report_analyzeSource_eq (h : (analyzeSource settings source).report = .ok r) :
    r = reportOf settings source := by
  have hfresh : (Session.start settings.libraries (NameSet.ofList settings.roots)).finished =
      false := rfl
  simp only [analyzeSource] at h
  split at h
  next => cases h
  next => cases h
  next hstop _ =>
    have hlines := (Session.stop_ingestFrom_eq_none_iff hfresh).mp hstop
    rw [Session.ingestLines_eq hfresh hlines] at h
    exact (Except.ok.inj h).symm

theorem libraries_absorbAll_start (libraries : List Text) (roots : NameSet) (rs : List Record) :
    ((Session.start libraries roots).absorbAll rs).libraries = NameList.normalize libraries := by
  rw [Session.libraries_absorbAll]
  simp [Session.libraries, Session.start, Function.comp_def]

/-- Beyond ASCII, the Markdown consists of the code points of the names that it shows. -/
theorem mem_markdownText_analyzed_iff (h : (analyzeSource settings source).report = .ok r)
    {c : CodePoint} (hc : 128 ≤ c.val) :
    c ∈ r.markdownText ↔ ∃ name ∈ namesShown settings source, c ∈ name := by
  rw [Report.mem_markdownText_iff hc, report_analyzeSource_eq h, reportOf,
    Session.exists_mem_shownTexts_iff, libraries_absorbAll_start]
  simp only [Session.mem_packages_start, namesShown, List.mem_append, List.mem_filter,
    decide_eq_true_eq, or_and_right, exists_or, and_assoc]

theorem encode_markdownText_iff (h : (analyzeSource settings source).report = .ok r) :
    (∃ bytes, Utf8.encode r.markdownText = .ok bytes) ↔
      ∀ name ∈ namesShown settings source, ∀ c ∈ name, c.isSurrogate = false := by
  rw [Utf8.encode_eq_ok_iff]
  constructor
  · intro htext name hname c hc
    apply CodePoint.isSurrogate_eq_false
    intro hbeyond
    apply htext c
    exact (mem_markdownText_analyzed_iff h hbeyond).mpr ⟨name, hname, hc⟩
  · intro hnames c hc
    apply CodePoint.isSurrogate_eq_false
    intro hbeyond
    obtain ⟨name, hname, hmem⟩ := (mem_markdownText_analyzed_iff h hbeyond).mp hc
    exact hnames name hname c hmem

theorem encode_jsonText (r : Report) : ∃ bytes, Utf8.encode r.jsonText = .ok bytes := by
  rw [Utf8.encode_eq_ok_iff]
  intro c hc
  apply CodePoint.isSurrogate_eq_false
  intro hbeyond
  exact absurd (Report.isAscii_jsonText r c hc) (Nat.not_lt_of_le hbeyond)

/-! ## Writing a report -/

/-- Where a file can be opened, both formats leave their whole text in it. A failure is one of the
output, and a file that was there is left as it was. -/
structure WritesSafely (t : Tree) (path : Path) (r : Report) : Prop where
  succeeds : t.obstacle? path = none → ∀ f : Format,
    (writeReport t path (some f.name) r).failure = none ∧
      ∃ bytes, Utf8.encode (r.text f) = .ok bytes ∧
        (writeReport t path (some f.name) r).tree.readFile path = .ok bytes
  fails : ∀ (f : Format) failure, (writeReport t path (some f.name) r).failure = some failure →
    (∃ problem, failure = .output path problem) ∧
      ∀ content, t.readFile path = .ok content →
        (writeReport t path (some f.name) r).tree.readFile path = .ok content

theorem WritesSafely.of_open (hopen : t.obstacle? path = none)
    (hencode : ∀ f : Format, ∃ bytes, Utf8.encode (r.text f) = .ok bytes)
    (htakes : ∀ f : Format, t.device.Takes (r.text f)) : WritesSafely t path r where
  succeeds := by
    intro _ f
    obtain ⟨bytes, hbytes⟩ := hencode f
    have htaken := htakes f bytes hbytes
    obtain ⟨hfailure, hputs⟩ := puts_writeText_of_encode_ok hopen hbytes
    rw [htaken] at hfailure
    rw [Device.kept_of_breakOff?_eq_none htaken] at hputs
    rw [writeReport_name]
    exact ⟨hfailure, bytes, hbytes, hputs.readFile⟩
  fails := by
    intro f failure hfailure
    obtain ⟨bytes, hbytes⟩ := hencode f
    rw [writeReport_name, (puts_writeText_of_encode_ok hopen hbytes).1, htakes f bytes hbytes]
      at hfailure
    cases hfailure

theorem WritesSafely.of_refused {fault : FileFault} {place : Path}
    (hrefused : t.obstacle? path = some (.refused fault place)) : WritesSafely t path r where
  succeeds := by
    intro hopen
    rw [hrefused] at hopen
    cases hopen
  fails := by
    intro f failure hfailure
    obtain ⟨hreason, hgrows⟩ := writeText_of_obstacle hrefused (r.text f)
    rw [writeReport_name] at hfailure ⊢
    rw [hreason] at hfailure
    cases hfailure
    exact ⟨⟨_, rfl⟩, fun content hcontent ↦ hgrows.readFile hcontent⟩

/-- What is written safely has an encoding that the device takes. -/
theorem WritesSafely.takes (h : WritesSafely t path r) (hopen : t.obstacle? path = none)
    (f : Format) : t.device.Takes (r.text f) := by
  intro bytes hbytes
  have hfailure := (h.succeeds hopen f).1
  rw [writeReport_name, (puts_writeText_of_encode_ok hopen hbytes).1] at hfailure
  exact Option.map_eq_none_iff.mp hfailure

theorem WritesSafely.isRefused (h : WritesSafely t path r) {failure : PathFailure}
    (hobstacle : t.obstacle? path = some failure) : failure.IsRefused := by
  have hfailure := (writeText_of_obstacle hobstacle (r.text .json)).1
  rw [← writeReport_name] at hfailure
  obtain ⟨⟨problem, hout⟩, -⟩ := h.fails .json _ hfailure
  cases failure with
  | refused fault place => exact ⟨fault, place, rfl⟩
  | _ => cases hout

/-- A report that was made from an input is written safely, in both formats, just when its Markdown
shows no name with a surrogate, the device takes both texts, and the path is refused, if at all, by
the file system. Where the device breaks off, it does so with a failure of the output, and what it
has kept of the text stands in the file. -/
theorem writesSafely_iff (h : (analyzeSource settings source).report = .ok r) (t : Tree)
    (path : Path) :
    (WritesSafely t path r ↔
      (t.obstacle? path = none →
        (∀ name ∈ namesShown settings source, ∀ c ∈ name, c.isSurrogate = false) ∧
          ∀ f : Format, t.device.Takes (r.text f)) ∧
      ∀ failure, t.obstacle? path = some failure → failure.IsRefused) ∧
    (path.HasNames → path.parts.length ≤ Tree.maxMissing →
      ∀ failure, t.obstacle? path = some failure → failure.IsRefused) ∧
    ∀ (f : Format) bytes kept fault, t.obstacle? path = none →
      Utf8.encode (r.text f) = .ok bytes → t.device.breakOff? bytes = some (kept, fault) →
      (writeReport t path (some f.name) r).failure = some (.output path (.brokenOff fault)) ∧
        (writeReport t path (some f.name) r).tree.readFile path = .ok (bytes.take kept) := by
  refine ⟨?_, fun hnames hlen failure ↦ Tree.refused_of_obstacle? hnames hlen, ?_⟩
  · constructor
    · intro hsafe
      refine ⟨fun hopen ↦ ⟨?_, hsafe.takes hopen⟩, fun failure ↦ hsafe.isRefused⟩
      obtain ⟨-, bytes, hbytes, -⟩ := hsafe.succeeds hopen .markdown
      exact (encode_markdownText_iff h).mp ⟨bytes, hbytes⟩
    · rintro ⟨htext, hrefused⟩
      cases hobstacle : t.obstacle? path with
      | none =>
          obtain ⟨hnames, htakes⟩ := htext hobstacle
          have hencode : ∀ f : Format, ∃ bytes, Utf8.encode (r.text f) = .ok bytes := by
            intro f
            cases f with
            | markdown => exact (encode_markdownText_iff h).mpr hnames
            | json => exact encode_jsonText r
          exact .of_open hobstacle hencode htakes
      | some failure =>
          obtain ⟨fault, place, rfl⟩ := hrefused failure hobstacle
          exact .of_refused hobstacle
  · intro f bytes kept fault hopen hbytes hbroken
    obtain ⟨hfailure, hputs⟩ := puts_writeText_of_encode_ok hopen hbytes
    rw [hbroken] at hfailure
    have hread := hputs.readFile
    rw [Device.kept, hbroken] at hread
    rw [writeReport_name]
    exact ⟨hfailure, hread⟩

/-- A surrogate in a shown name has the file emptied by the Markdown, but not by the JSON, even on a
device that takes everything. -/
theorem writeReport_of_surrogate (h : (analyzeSource settings source).report = .ok r)
    (hopen : t.obstacle? path = none) (hdevice : t.device = .willing)
    (hname : ∃ name ∈ namesShown settings source, ∃ c ∈ name, c.isSurrogate = true) :
    (∃ run, (writeReport t path (some Format.markdown.name) r).failure = some (.unencodable run)) ∧
      (writeReport t path (some Format.markdown.name) r).tree.readFile path = .ok [] ∧
      (writeReport t path (some Format.json.name) r).failure = none := by
  rw [writeReport_name, writeReport_name]
  obtain ⟨bytes, hjson⟩ := encode_jsonText r
  have hfails : ∃ run, Utf8.encode r.markdownText = .error run := by
    cases hencode : Utf8.encode r.markdownText with
    | error run => exact ⟨run, rfl⟩
    | ok bytes =>
        obtain ⟨name, hmem, c, hc, hs⟩ := hname
        have hclean := (encode_markdownText_iff h).mp ⟨bytes, hencode⟩ name hmem c hc
        rw [hclean] at hs
        cases hs
  obtain ⟨run, hrun⟩ := hfails
  obtain ⟨hfailure, hputs⟩ := puts_writeText_of_encode_error hopen hrun
  have hwritten := (puts_writeText_of_encode_ok hopen hjson).1
  rw [hdevice] at hfailure hwritten
  exact ⟨⟨run, hfailure⟩, hputs.readFile, hwritten⟩

/-- A file of two bytes in the current directory. -/
def oldReport : Tree := Tree.empty.add [Path.nameOf "out.md"] (.file [104, 105])

/-- A record whose source package ends in an accented letter. -/
def accentedLine : Text :=
  "\x7b\"sourceClass\":\"a.\\u00e9.C\",\"targetClass\":\"x.y.Z\","
    ++ "\"artifactId\":\"m\",\"artifactGroup\":\"g\"\x7d"

/-- The same record with half of a surrogate pair in the place of the letter. -/
def surrogateLine : Text :=
  "\x7b\"sourceClass\":\"a.\\ud800.C\",\"targetClass\":\"x.y.Z\","
    ++ "\"artifactId\":\"m\",\"artifactGroup\":\"g\"\x7d"

theorem exists_report_of_isSome
    (h : (analyzeSource settings source).report.toOption.isSome = true) :
    ∃ r, (analyzeSource settings source).report = .ok r := by
  cases hr : (analyzeSource settings source).report with
  | ok r => exact ⟨r, rfl⟩
  | error failure =>
      rw [hr] at h
      cases h

theorem writesSafely_accented :
    ∃ r, (analyzeSource .default ⟨[accentedLine], none⟩).report = .ok r ∧
      oldReport.obstacle? (.ofText "out.md") = none ∧
      WritesSafely oldReport (.ofText "out.md") r := by
  have hsome : (analyzeSource .default ⟨[accentedLine], none⟩).report.toOption.isSome = true := by
    decide +kernel
  obtain ⟨r, hr⟩ := exists_report_of_isSome hsome
  have hopen : oldReport.obstacle? (.ofText "out.md") = none := by decide +kernel
  have hnames : ∀ name ∈ namesShown .default ⟨[accentedLine], none⟩, ∀ c ∈ name,
      c.isSurrogate = false := by decide +kernel
  refine ⟨r, hr, hopen, (writesSafely_iff hr oldReport (.ofText "out.md")).1.mpr
    ⟨fun _ ↦ ⟨hnames, fun _ ↦ Device.takes_willing _⟩, fun failure hobstacle ↦ ?_⟩⟩
  rw [hopen] at hobstacle
  cases hobstacle

/-- Half of a surrogate pair in the name of a package: the Markdown fails for another reason than
the output, and the bytes that were in the file are gone, where the JSON can be written. -/
theorem writeReport_empties_file :
    ∃ r, (analyzeSource .default ⟨[surrogateLine], none⟩).report = .ok r ∧
      oldReport.readFile (.ofText "out.md") = .ok [104, 105] ∧
      (∃ run, (writeReport oldReport (.ofText "out.md") (some "markdown") r).failure =
        some (.unencodable run)) ∧
      (writeReport oldReport (.ofText "out.md") (some "markdown") r).tree.readFile
        (.ofText "out.md") = .ok [] ∧
      (writeReport oldReport (.ofText "out.md") (some "json") r).failure = none ∧
      ¬ WritesSafely oldReport (.ofText "out.md") r := by
  have hsome : (analyzeSource .default ⟨[surrogateLine], none⟩).report.toOption.isSome = true := by
    decide +kernel
  obtain ⟨r, hr⟩ := exists_report_of_isSome hsome
  have hread : oldReport.readFile (.ofText "out.md") = .ok [104, 105] := by decide +kernel
  have hopen : oldReport.obstacle? (.ofText "out.md") = none := by decide +kernel
  have hname : ∃ name ∈ namesShown .default ⟨[surrogateLine], none⟩, ∃ c ∈ name,
      c.isSurrogate = true := by decide +kernel
  obtain ⟨⟨run, hfailure⟩, hempty, hjson⟩ := writeReport_of_surrogate hr hopen rfl hname
  refine ⟨r, hr, hread, ⟨run, hfailure⟩, hempty, hjson, ?_⟩
  intro hsafe
  rw [(hsafe.succeeds hopen .markdown).1] at hfailure
  cases hfailure

end Run

end PackageRollup
