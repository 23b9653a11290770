import PackageRollup.Proofs.Run.Output

/-!
# The effect of a run on the files

A run writes one file, after its input has been read, and makes directories only on the way to it.
What it reads is the tree before the run, even where the output takes the place of the input. A run
that ends before it has opened the output leaves every file as it was. From then on the old content
of the output is gone, and if writing breaks off a beginning of the report takes its place.
-/

namespace PackageRollup.Run

variable {settings : Settings} {source : Source} {t u : Tree} {events : List Event}
variable {outcome : Except Failure Path}

/-! ## Reading the input -/

/-- The source can be read to its end, and no line goes beyond a limit of the decoder. -/
structure IsRead (source : Source) : Prop where
  lines : ∀ line ∈ source.lines, Record.WithinLimits line
  failure : source.failure = none

/-- Why a source is not read to its end: its first line beyond a limit of the decoder, or what it
fails with when all its lines have been read. -/
inductive CutShort (source : Source) : Failure → Prop where
  | limit {before later : List Text} {line : Text} {l : Json.Limit}
      (hlines : source.lines = before ++ line :: later)
      (hbefore : ∀ b ∈ before, Record.WithinLimits b) (hblank : Text.isBlankText line = false)
      (hl : Json.ExceedsLimit line l) : CutShort source (.stop (.limit l))
  | failed {failure : SourceFailure} (hlines : ∀ line ∈ source.lines, Record.WithinLimits line)
      (hfailure : source.failure = some failure) : CutShort source (.input failure)

theorem report_of_isRead (settings : Settings) (h : IsRead source) :
    (analyzeSource settings source).report = .ok (reportOf settings source) := by
  have hfresh : (Session.start settings.libraries (NameSet.ofList settings.roots)).finished =
      false := rfl
  simp only [analyzeSource, Session.ingestLines_eq hfresh h.lines, h.failure]
  rfl

theorem report_of_cutShort (settings : Settings) {failure : Failure}
    (h : CutShort source failure) : (analyzeSource settings source).report = .error failure := by
  have hfresh : (Session.start settings.libraries (NameSet.ofList settings.roots)).finished =
      false := rfl
  cases h with
  | @limit before _ _ _ hlines hbefore hblank hl =>
      have hstop : ((Session.start settings.libraries (NameSet.ofList settings.roots)).ingestLines
          before).stop = none := (Session.stop_ingestFrom_eq_none_iff hfresh).mpr hbefore
      simp only [analyzeSource, hlines, Session.ingestLines_append_limit hstop hblank hl]
  | failed hlines hfailure =>
      simp only [analyzeSource, Session.ingestLines_eq hfresh hlines, hfailure]

/-- Lines are within the limits, or there is a first one that is not. -/
theorem withinLimits_or_first (lines : List Text) :
    (∀ line ∈ lines, Record.WithinLimits line) ∨
      ∃ before line later l, lines = before ++ line :: later ∧
        (∀ b ∈ before, Record.WithinLimits b) ∧ Text.isBlankText line = false ∧
        Json.ExceedsLimit line l := by
  induction lines with
  | nil => exact .inl (by simp)
  | cons line lines ih =>
      by_cases hline : Record.WithinLimits line
      · rcases ih with hlines | ⟨before, line', later, l, rfl, hbefore, hlong⟩
        · exact .inl (List.forall_mem_cons.mpr ⟨hline, hlines⟩)
        · exact .inr ⟨line :: before, line', later, l, rfl,
            List.forall_mem_cons.mpr ⟨hline, hbefore⟩, hlong⟩
      · simp only [Record.WithinLimits, not_forall, not_not] at hline
        obtain ⟨hblank, n, l, hd⟩ := hline
        exact .inr ⟨[], line, lines, l, rfl, by simp, hblank, Record.decode_eq_limit_iff.mp hd⟩

theorem isRead_or_cutShort (source : Source) :
    IsRead source ∨ ∃ failure, CutShort source failure := by
  rcases withinLimits_or_first source.lines with hlines | ⟨_, _, _, l, hlines, hbefore, hblank, hl⟩
  · cases hfailure : source.failure with
    | none => exact .inl ⟨hlines, hfailure⟩
    | some failure => exact .inr ⟨_, .failed hlines hfailure⟩
  · exact .inr ⟨_, .limit hlines hbefore hblank hl⟩

theorem CutShort.not_isRead {failure : Failure} (h : CutShort source failure) :
    ¬ IsRead source := by
  intro hread
  have hreport := report_of_isRead .default hread
  rw [report_of_cutShort .default h] at hreport
  cases hreport

theorem CutShort.unique {failure failure' : Failure} (h : CutShort source failure)
    (h' : CutShort source failure') : failure = failure' := by
  have hreport := report_of_cutShort .default h
  rw [report_of_cutShort .default h'] at hreport
  cases hreport
  rfl

/-! ## The ends of a run -/

def chosenFormat? (settings : Settings) : Option Format := settings.format.bind Format.ofName?

/-- The bytes are the report on the source in the format of the settings. -/
def Renders (settings : Settings) (source : Source) (bytes : Bytes) : Prop :=
  ∃ f, chosenFormat? settings = some f ∧
    Utf8.encode ((reportOf settings source).text f) = .ok bytes

/-- All ways in which a run on a source can end: the tree that it leaves and what it answers. -/
inductive Ends (settings : Settings) (source : Source) (t : Tree) :
    Tree → Except Failure Path → Prop where
  | unread {failure : Failure} (hcut : CutShort source failure) :
      Ends settings source t t (.error failure)
  | unformatted {failure : Failure} (hread : IsRead source)
      (hformat : chosenFormat? settings = none)
      (hfailure : failure = settings.format.elim .noFormat .unknownFormat) :
      Ends settings source t t (.error failure)
  | refused {f : Format} {failure : PathFailure} {u : Tree} (hread : IsRead source)
      (hformat : chosenFormat? settings = some f)
      (hobstacle : t.obstacle? settings.outputPath = some failure)
      (hframe : t.Frame settings.outputPath none u) :
      Ends settings source t u (.error (outputFailure settings.outputPath failure))
  | unencodable {f : Format} {run : Utf8.SurrogateRun} {u : Tree} (hread : IsRead source)
      (hformat : chosenFormat? settings = some f)
      (hencode : Utf8.encode ((reportOf settings source).text f) = .error run)
      (hputs : Tree.Puts settings.outputPath [] t u) :
      Ends settings source t u (.error (.unencodable run))
  /-- Even closing a file in which there is nothing can break off. -/
  | unencodableBroken {f : Format} {run : Utf8.SurrogateRun} {fault : FileFault} {u : Tree}
      (hread : IsRead source) (hformat : chosenFormat? settings = some f)
      (hencode : Utf8.encode ((reportOf settings source).text f) = .error run)
      (hputs : Tree.Puts settings.outputPath [] t u) :
      Ends settings source t u (.error (.output settings.outputPath (.brokenOff fault)))
  | brokenOff {f : Format} {bytes : Bytes} {kept : Nat} {fault : FileFault} {u : Tree}
      (hread : IsRead source) (hformat : chosenFormat? settings = some f)
      (hencode : Utf8.encode ((reportOf settings source).text f) = .ok bytes)
      (hbroken : t.device.breakOff? bytes = some (kept, fault))
      (hputs : Tree.Puts settings.outputPath (bytes.take kept) t u) :
      Ends settings source t u (.error (.output settings.outputPath (.brokenOff fault)))
  | written {f : Format} {bytes : Bytes} {u : Tree} (hread : IsRead source)
      (hformat : chosenFormat? settings = some f)
      (hobstacle : t.obstacle? settings.outputPath = none)
      (hencode : Utf8.encode ((reportOf settings source).text f) = .ok bytes)
      (htaken : t.device.breakOff? bytes = none)
      (hputs : Tree.Puts settings.outputPath bytes t u) :
      Ends settings source t u (.ok settings.outputPath)

theorem conclude_ok (r : Report) :
    (conclude settings t ⟨.ok r, events⟩).tree =
        (writeReport t settings.outputPath settings.format r).tree ∧
      (conclude settings t ⟨.ok r, events⟩).outcome =
        match (writeReport t settings.outputPath settings.format r).failure with
        | some failure => .error failure
        | none => .ok settings.outputPath := by
  simp only [conclude]
  rcases writeReport t settings.outputPath settings.format r with ⟨u, _ | failure⟩ <;>
    exact ⟨rfl, rfl⟩

theorem writeReport_of_chosenFormat?_eq_none (h : chosenFormat? settings = none) (t : Tree)
    (path : Path) (r : Report) :
    writeReport t path settings.format r =
      ⟨t, some (settings.format.elim .noFormat .unknownFormat)⟩ := by
  rw [chosenFormat?] at h
  cases hformat : settings.format with
  | none => rfl
  | some name =>
      rw [hformat, Option.bind_some] at h
      simp only [writeReport, h, Option.elim_some]

theorem writeReport_of_chosenFormat?_eq_some {f : Format} (h : chosenFormat? settings = some f)
    (t : Tree) (path : Path) (r : Report) :
    writeReport t path settings.format r = writeText t path (r.text f) := by
  obtain ⟨name, hformat, hname⟩ := Option.bind_eq_some_iff.mp h
  simp only [writeReport, hformat, hname]

/-- The ends of a run whose output can be opened. -/
theorem ends_of_open {f : Format} (hread : IsRead source)
    (hformat : chosenFormat? settings = some f)
    (hobstacle : t.obstacle? settings.outputPath = none) :
    Ends settings source t
      (writeText t settings.outputPath ((reportOf settings source).text f)).tree
      (match (writeText t settings.outputPath ((reportOf settings source).text f)).failure with
        | some failure => .error failure
        | none => .ok settings.outputPath) := by
  cases hencode : Utf8.encode ((reportOf settings source).text f) with
  | error run =>
      obtain ⟨hfailure, hputs⟩ := puts_writeText_of_encode_error hobstacle hencode
      rw [hfailure]
      cases t.device.breakOff? [] with
      | none => exact .unencodable hread hformat hencode hputs
      | some broken => exact .unencodableBroken hread hformat hencode hputs
  | ok bytes =>
      obtain ⟨hfailure, hputs⟩ := puts_writeText_of_encode_ok hobstacle hencode
      rw [hfailure]
      rw [Device.kept] at hputs
      cases hbroken : t.device.breakOff? bytes with
      | none =>
          rw [hbroken] at hputs
          exact .written hread hformat hobstacle hencode hbroken hputs
      | some broken =>
          rw [hbroken] at hputs
          exact .brokenOff hread hformat hencode hbroken hputs

theorem ends_conclude (settings : Settings) (source : Source) (t : Tree) (events : List Event) :
    Ends settings source t
      (conclude settings t ⟨(analyzeSource settings source).report, events⟩).tree
      (conclude settings t ⟨(analyzeSource settings source).report, events⟩).outcome := by
  rcases isRead_or_cutShort source with hread | ⟨failure, hcut⟩
  · rw [report_of_isRead settings hread, (conclude_ok _).1, (conclude_ok _).2]
    cases hformat : chosenFormat? settings with
    | none =>
        rw [writeReport_of_chosenFormat?_eq_none hformat]
        exact .unformatted hread hformat rfl
    | some f =>
        rw [writeReport_of_chosenFormat?_eq_some hformat]
        cases hobstacle : t.obstacle? settings.outputPath with
        | none => exact ends_of_open hread hformat hobstacle
        | some failure =>
            obtain ⟨hfailure, hgrows⟩ :=
              writeText_of_obstacle hobstacle ((reportOf settings source).text f)
            rw [hfailure]
            exact .refused hread hformat hobstacle hgrows.frame
  · rw [report_of_cutShort settings hcut]
    exact .unread hcut

/-! ## The effect of a run -/

/-- What a run on a source does to the files. -/
structure Effect (settings : Settings) (source : Source) (t : Tree) (ran : Ran) : Prop where
  /-- A run that answers a path has put the report there, and nothing else anywhere. -/
  returns : ∀ path, ran.outcome = .ok path → path = settings.outputPath ∧
    ∃ bytes, Renders settings source bytes ∧ Tree.Puts path bytes t ran.tree
  returns_iff : (∃ path, ran.outcome = .ok path) ↔
    IsRead source ∧ t.obstacle? settings.outputPath = none ∧
      ∃ bytes, Renders settings source bytes ∧ t.device.breakOff? bytes = none
  /-- An input that cannot be read to its end leaves the tree as it was. -/
  unread : ∀ failure, CutShort source failure → ran.outcome = .error failure ∧ ran.tree = t
  /-- So does a format that is not known. -/
  unformatted : chosenFormat? settings = none → ran.tree = t ∧
    (IsRead source → ∀ name, settings.format = some name →
      ran.outcome = .error (.unknownFormat name))
  /-- An output that cannot be opened leaves all files as they were, and adds none. -/
  refused : ∀ path fault place, ran.outcome = .error (.output path (.refused fault place)) →
    t.Frame settings.outputPath none ran.tree
  /-- An output that breaks off holds a beginning of the report, or nothing if the report has no
  encoding. -/
  brokenOff : ∀ path fault, ran.outcome = .error (.output path (.brokenOff fault)) →
    path = settings.outputPath ∧ ∃ part, Tree.Puts path part t ran.tree ∧
      (part = [] ∨ ∃ bytes, Renders settings source bytes ∧ part <+: bytes)
  /-- However a run ends, it changes no other file than the output, and makes directories only on
  the way to it. -/
  elsewhere : t.Frame settings.outputPath none ran.tree ∨
    ∃ content, Tree.Puts settings.outputPath content t ran.tree

theorem Ends.returns (h : Ends settings source t u outcome) {path : Path}
    (hpath : outcome = .ok path) : path = settings.outputPath ∧
      ∃ bytes, Renders settings source bytes ∧ Tree.Puts path bytes t u := by
  cases h with
  | written _ hformat _ hencode _ hputs =>
      cases hpath
      exact ⟨rfl, _, ⟨_, hformat, hencode⟩, hputs⟩
  | _ => cases hpath

theorem renders_iff {f : Format} (hformat : chosenFormat? settings = some f) {bytes : Bytes} :
    Renders settings source bytes ↔
      Utf8.encode ((reportOf settings source).text f) = .ok bytes := by
  simp [Renders, hformat]

theorem Ends.returns_iff (h : Ends settings source t u outcome) :
    (∃ path, outcome = .ok path) ↔
      IsRead source ∧ t.obstacle? settings.outputPath = none ∧
        ∃ bytes, Renders settings source bytes ∧ t.device.breakOff? bytes = none := by
  cases h with
  | written hread hformat hobstacle hencode htaken _ =>
      exact iff_of_true ⟨_, rfl⟩ ⟨hread, hobstacle, _, (renders_iff hformat).mpr hencode, htaken⟩
  | unread hcut => simp [hcut.not_isRead]
  | unformatted _ hformat _ => simp [Renders, hformat]
  | refused _ _ hobstacle _ => simp [hobstacle]
  | unencodable _ hformat hencode _ => simp [renders_iff hformat, hencode]
  | unencodableBroken _ hformat hencode _ => simp [renders_iff hformat, hencode]
  | brokenOff _ hformat hencode hbroken _ => simp [renders_iff hformat, hencode, hbroken]

theorem Ends.unread_eq (h : Ends settings source t u outcome) {failure : Failure}
    (hcut : CutShort source failure) : outcome = .error failure ∧ u = t := by
  cases h with
  | unread hcut' => exact ⟨congrArg _ (hcut'.unique hcut), rfl⟩
  | unformatted hread | refused hread | unencodable hread | unencodableBroken hread
  | brokenOff hread | written hread => exact absurd hread hcut.not_isRead

theorem Ends.unformatted_eq (h : Ends settings source t u outcome)
    (hnone : chosenFormat? settings = none) : u = t ∧
      (IsRead source → ∀ name, settings.format = some name →
        outcome = .error (.unknownFormat name)) := by
  have hknown : ∀ f, chosenFormat? settings ≠ some f := by simp [hnone]
  cases h with
  | unread hcut => exact ⟨rfl, fun hread ↦ absurd hread hcut.not_isRead⟩
  | unformatted _ _ hfailure =>
      refine ⟨rfl, fun _ name hname ↦ ?_⟩
      rw [hfailure, hname, Option.elim_some]
  | refused _ hformat | unencodable _ hformat | unencodableBroken _ hformat
  | brokenOff _ hformat | written _ hformat => exact absurd hformat (hknown _)

theorem CutShort.ne_output {failure : Failure} (h : CutShort source failure) (path : Path)
    (problem : OutputProblem) : failure ≠ .output path problem := by
  cases h <;> simp

theorem Ends.refused_frame (h : Ends settings source t u outcome) {path place : Path}
    {fault : FileFault} (hfailure : outcome = .error (.output path (.refused fault place))) :
    t.Frame settings.outputPath none u := by
  cases h with
  | unread | unformatted => exact .refl _ _ t
  | refused _ _ _ hframe => exact hframe
  | _ => cases hfailure

theorem Ends.brokenOff_puts (h : Ends settings source t u outcome) {path : Path}
    {fault : FileFault} (hfailure : outcome = .error (.output path (.brokenOff fault))) :
    path = settings.outputPath ∧ ∃ part, Tree.Puts path part t u ∧
      (part = [] ∨ ∃ bytes, Renders settings source bytes ∧ part <+: bytes) := by
  cases h with
  | unread hcut => exact absurd (Except.error.inj hfailure) (hcut.ne_output _ _)
  | unformatted _ _ hnone =>
      rw [hnone] at hfailure
      cases hformat : settings.format <;> simp [hformat] at hfailure
  | @refused _ failure _ _ _ _ _ => cases failure <;> cases hfailure
  | unencodable | written => cases hfailure
  | unencodableBroken _ _ _ hputs =>
      cases hfailure
      exact ⟨rfl, [], hputs, .inl rfl⟩
  | brokenOff _ hformat hencode _ hputs =>
      cases hfailure
      exact ⟨rfl, _, hputs, .inr ⟨_, (renders_iff hformat).mpr hencode, List.take_prefix _ _⟩⟩

theorem Ends.elsewhere (h : Ends settings source t u outcome) :
    t.Frame settings.outputPath none u ∨
      ∃ content, Tree.Puts settings.outputPath content t u := by
  cases h with
  | unread | unformatted => exact .inl (.refl _ _ t)
  | refused _ _ _ hframe => exact .inl hframe
  | unencodable _ _ _ hputs | unencodableBroken _ _ _ hputs | brokenOff _ _ _ _ hputs
  | written _ _ _ _ _ hputs => exact .inr ⟨_, hputs⟩

theorem Ends.effect {ran : Ran} (h : Ends settings source t ran.tree ran.outcome) :
    Effect settings source t ran where
  returns _ := h.returns
  returns_iff := h.returns_iff
  unread _ := h.unread_eq
  unformatted := h.unformatted_eq
  refused _ _ _ := h.refused_frame
  brokenOff _ _ := h.brokenOff_puts
  elsewhere := h.elsewhere

/-- The effect of a run, whatever it reads from: any lines that end in any way, or the input that an
argument names. The input is the content of standard input, or of the file in the tree before the
run. -/
theorem effect_run (settings : Settings) (t : Tree) :
    (∀ source events, Effect settings source t
      (conclude settings t ⟨(analyzeSource settings source).report, events⟩)) ∧
    (∀ stdin argument, Effect settings (Source.ofArgument t stdin argument) t
      (run settings t stdin argument)) ∧
    (∀ content, Source.ofArgument t (.bytes content) "-" = ⟨Text.linesOfBytes content, none⟩) ∧
    ∀ stdin argument content, argument ≠ ("-" : Text) →
      t.readFile (.ofText argument) = .ok content →
      Source.ofArgument t stdin argument = ⟨Text.linesOfBytes content, none⟩ := by
  refine ⟨fun _ _ ↦ (ends_conclude ..).effect, fun _ _ ↦ (ends_conclude ..).effect,
    fun content ↦ rfl, fun stdin argument content hfile hcontent ↦ ?_⟩
  obtain ⟨l, hlookup⟩ := Tree.readFile_eq_ok_iff.mp hcontent
  have hentry : t.entryIfAny (.ofText argument) = .ok (some (.file content)) := by
    rw [Tree.entryIfAny, Tree.entryAt, hlookup]
    rfl
  rw [Source.ofArgument, if_neg hfile, Source.ofFile, hentry]

-- the one line of the input is no record, and the report takes its place
example :
    let settings := { Settings.default with output := some (.ofText "out.md") }
    let ran := run settings oldReport (.bytes []) "out.md"
    ran.outcome = .ok (.ofText "out.md") ∧
      ran.tree.readFile (.ofText "out.md") ≠ oldReport.readFile (.ofText "out.md") := by
  decide +kernel

/-- A device with no space left for any byte. -/
def fullDevice : Device :=
  { Device.willing with
    breakOff? bytes :=
      if bytes.isEmpty then none else some (0, .other 28 "No space left on device") }

/-- The report finds no space: the run says that the output cannot be written, and the bytes that
were in the file are gone. And a path that goes into a directory and out of it again has this
directory made, although the file is not below it. -/
theorem run_loses_old_report :
    (let settings := { Settings.default with output := some (.ofText "out.md") }
      let ran := run settings { oldReport with device := fullDevice } (.bytes []) "-"
      ran.outcome = .error (.output (.ofText "out.md")
          (.brokenOff (.other 28 "No space left on device"))) ∧
        oldReport.readFile (.ofText "out.md") = .ok [104, 105] ∧
        ran.tree.readFile (.ofText "out.md") = .ok []) ∧
    let settings := { Settings.default with output := some (.ofText "x/../out.md") }
    let ran := run settings oldReport (.bytes []) "-"
    ran.outcome = .ok (.ofText "x/../out.md") ∧
      ran.tree.find? [Path.nameOf "out.md"] ≠ oldReport.find? [Path.nameOf "out.md"] ∧
      oldReport.find? [Path.nameOf "x"] = none ∧
      ran.tree.find? [Path.nameOf "x"] = some .directory := by
  decide +kernel

end PackageRollup.Run
